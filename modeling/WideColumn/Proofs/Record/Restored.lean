import WideColumn.Proofs.Record.Encoding
import WideColumn.Proofs.Record.Materialized
import WideColumn.Proofs.Row.Lookup

namespace WideColumn

open Outcome

variable {ρ : Type}

theorem Value.eq_null {v : Value} (h : v.isNull = true) : v = .null := by
  cases v <;> first | rfl | contradiction

theorem Value.isNull_coerce (v : Value) : v.coerce.isNull = v.isNull := by
  cases v <;> rfl

theorem Value.eq_of_getD_null {α : Type} {f : α → Value} (hnull : ∀ x, (f x).isNull = false)
    (hf : Function.Injective f) {x y : Option α}
    (h : (x.map f).getD .null = (y.map f).getD .null) : x = y := by
  cases x with
  | none =>
    cases y with
    | none => rfl
    | some y =>
      have hfalse : true = false := (congrArg isNull h).trans (hnull y)
      contradiction
  | some x =>
    cases y with
    | none =>
      have hfalse : true = false := (congrArg isNull h).symm.trans (hnull x)
      contradiction
    | some y => exact congrArg some (hf h)

theorem Value.exists_of_isNull_getD {α : Type} {f : α → Value} {x : Option α}
    (h : ((x.map f).getD .null).isNull = false) : ∃ y, x = some y := by
  cases x with
  | none => contradiction
  | some y => exact ⟨y, rfl⟩

theorem TypeRegistry.resolve?_of_mem {r : TypeRegistry} {t : TypeName} (h : t ∈ r.types) :
    r.resolve? t.name = some t := by
  cases hfound : r.resolve? t.name with
  | none => exact absurd (beq_self_eq_true t.name) (List.find?_eq_none.mp hfound t h)
  | some u =>
    have hname : u.name = t.name := by simpa using List.find?_some hfound
    cases t
    cases u
    cases hname
    rfl

theorem FieldType.decodeField_encode {t : FieldType} (ht : t.isPlain = true) (field : String)
    (x : t.Carrier) : t.decodeField field (t.encode x) = .ok x := by
  rw [decodeField, decode_encode ht]

theorem FieldType.encode_option_typeName (x : Option TypeName) :
    (option typeName).encode x = (x.map Value.type).getD .null := by
  cases x <;> rfl

theorem EnumType.decodeField_encode {ε : Type} {t : EnumType ε} {x : ε}
    (h : t.ofLabel? (t.label x) = some x) (field : String) :
    t.decodeField field (t.encode x) = .ok x := by
  simp only [decodeField, encode, h]

namespace Materializer

variable {types : TypeRegistry} (field : String)

theorem lift_label {ε : Type} {t : EnumType ε} {x : ε} (h : t.model.contains (t.label x) = true) :
    lift types field (.enum t.model) (t.encode x).coerce = .ok (t.encode x) :=
  if_pos h

theorem lift_typeName {t : TypeName} (h : t ∈ types.types) :
    lift types field .typeName (Value.type t).coerce = .ok (.type t) := by
  rw [Value.coerce, lift, TypeRegistry.resolve?_of_mem h]

end Materializer

namespace FieldModel

/-- A field that takes from the store what this record holds in it: a plain value, a variant that
the enumeration lists, or the name of a registered type. The blank record holds none in it if it is
optional. -/
inductive Restorable (types : TypeRegistry) (blank record : ρ) : FieldModel ρ → Prop where
  | plain (name : String) (t : FieldType) (get : ρ → t.Carrier) (put : t.Carrier → ρ → ρ)
      (hplain : t.isPlain = true) (hput : ∀ x r, get (put x r) = x)
      (hblank : t.isOption = true → t.encode (get blank) = .null) :
      Restorable types blank record (.ofType name t get put)
  | enum {ε : Type} (name : String) (t : EnumType ε) (get : ρ → Option ε) (put : Option ε → ρ → ρ)
      (hput : ∀ x r, get (put x r) = x) (hblank : get blank = none)
      (hlisted : ∀ x, get record = some x → t.model.contains (t.label x) = true)
      (hvariant : ∀ x, get record = some x → t.ofLabel? (t.label x) = some x) :
      Restorable types blank record (.ofEnum name t get put)
  | typeName (name : String) (get : ρ → Option TypeName) (put : Option TypeName → ρ → ρ)
      (hput : ∀ x r, get (put x r) = x) (hblank : get blank = none)
      (hregistered : ∀ t, get record = some t → t ∈ types.types) :
      Restorable types blank record (.ofType name (.option .typeName) get put .typeName)

variable {m : Materializer} {blank record : ρ} {f : FieldModel ρ}

theorem Restorable.setLifted (h : f.Restorable m.types blank record)
    (hv : (f.get record).isNull = false) (r : ρ) :
    ∃ r', m.setLifted f (f.get record).coerce r = .ok r' ∧ f.get r' = f.get record := by
  cases h with
  | plain name t get put hplain hput =>
    refine ⟨put (get record) r, ?_, congrArg t.encode (hput _ r)⟩
    have hvalue : ((ofType name t get put).get record).coerce = t.encode (get record) :=
      FieldType.coerce_encode hplain _
    rw [hvalue]
    have hset := FieldType.decodeField_encode hplain name (get record)
    exact bind_eq_ok.mpr ⟨_, rfl, bind_eq_ok.mpr ⟨_, hset, rfl⟩⟩
  | enum name t get put hput _ hlisted hvariant =>
    obtain ⟨x, hx⟩ := Value.exists_of_isNull_getD hv
    have hvalue : (ofEnum name t get put).get record = t.encode x := by
      simp only [ofEnum, hx, Option.map_some, Option.getD_some]
    rw [hvalue]
    refine ⟨put (some x) r, ?_, ?_⟩
    · -- the store has the bare label, which gets its enumeration back before it is set
      have hset := EnumType.decodeField_encode (hvariant x hx) name
      exact bind_eq_ok.mpr
        ⟨_, Materializer.lift_label name (hlisted x hx), bind_eq_ok.mpr ⟨_, hset, rfl⟩⟩
    · simp only [ofEnum, hput, Option.map_some, Option.getD_some]
  | typeName name get put hput _ hregistered =>
    have hencode := FieldType.encode_option_typeName (get record)
    obtain ⟨t, ht⟩ := Value.exists_of_isNull_getD ((congrArg Value.isNull hencode).symm.trans hv)
    have hvalue : (ofType name (.option .typeName) get put .typeName).get record = .type t :=
      congrArg (FieldType.option .typeName).encode ht
    rw [hvalue]
    refine ⟨put (some t) r, ?_, congrArg (FieldType.option .typeName).encode (hput _ r)⟩
    exact bind_eq_ok.mpr ⟨_, Materializer.lift_typeName name (hregistered t ht), rfl⟩

theorem Restorable.get_blank (h : f.Restorable m.types blank record)
    (hv : (f.get record).isNull = true) : f.get blank = f.get record := by
  rw [Value.eq_null hv]
  cases h with
  | plain name t get put hplain _ hblank =>
    cases hoption : t.isOption with
    | false =>
      have hfull := FieldType.isNull_encode hoption (get record)
      exact absurd (hv.symm.trans hfull) (by decide)
    | true => exact hblank hoption
  | enum name t get put _ hblank => simp only [ofEnum, hblank, Option.map_none, Option.getD_none]
  | typeName name get put _ hblank => exact congrArg (FieldType.option .typeName).encode hblank

end FieldModel

namespace RecordModel

def columnValues (m : RecordModel ρ) (naming : Naming) (record : ρ) : List (String × Value) :=
  (m.fields.filter fun f => !(f.get record).isNull).map fun f =>
    (naming.normalize f.name, f.get record)

def writtenColumns (m : RecordModel ρ) (naming : Naming) (record : ρ) : List (String × Value) :=
  (m.columnValues naming record).map fun e => (e.1, e.2.coerce)

structure Restorable (m : RecordModel ρ) (naming : Naming) (types : TypeRegistry) (record : ρ) :
    Prop where
  lawful : m.Lawful
  determined : ∀ r r', (∀ f ∈ m.fields, f.get r = f.get r') → r = r'
  distinct : (ColumnNames.ofModel m naming).columns.Nodup
  fields : ∀ f ∈ m.fields, f.Restorable types m.blank record

variable {model : RecordModel ρ} {naming : Naming} {record : ρ} {e : String × Value}

theorem mem_writtenColumns : e ∈ model.writtenColumns naming record ↔
    ∃ f ∈ model.fields, (f.get record).isNull = false ∧
      e = (naming.normalize f.name, (f.get record).coerce) := by
  rw [writtenColumns, columnValues, List.map_map, List.mem_map]
  constructor
  · rintro ⟨f, hf, rfl⟩
    obtain ⟨hf, hv⟩ := List.mem_filter.mp hf
    rw [Bool.not_eq_true'] at hv
    exact ⟨f, hf, hv, rfl⟩
  · rintro ⟨f, hf, hv, rfl⟩
    rw [← Bool.not_eq_true'] at hv
    exact ⟨f, List.mem_filter.mpr ⟨hf, hv⟩, rfl⟩

end RecordModel

namespace FieldDeclaration

inductive Restorable (types : TypeRegistry) : (d : FieldDeclaration) → d.Carrier → Prop where
  | plain (name : String) (t : FieldType) (x : t.Carrier) (hplain : t.isPlain = true) :
      Restorable types (.plain name t) x
  | enum (name : String) (t : EnumType String) (x : Option String)
      (hlabel : Function.Injective t.label)
      (hlisted : ∀ y, x = some y → t.model.contains (t.label y) = true)
      (hvariant : ∀ y, x = some y → t.ofLabel? (t.label y) = some y) :
      Restorable types (.enum name t) x
  | typeName (name : String) (x : Option TypeName)
      (hregistered : ∀ t, x = some t → t ∈ types.types) :
      Restorable types (.plain name (.option .typeName) .typeName) x

variable {types : TypeRegistry} {d : FieldDeclaration} {get : ρ → d.Carrier}
  {put : d.Carrier → ρ → ρ} {blank record r r' : ρ}

theorem Restorable.model (get : ρ → d.Carrier) (h : d.Restorable types (get record))
    (hput : ∀ x r, get (put x r) = x) (hblank : get blank = d.blank) :
    (d.model get put).Restorable types blank record := by
  generalize hx : get record = x at h
  cases h with
  | plain name t x hplain =>
    refine .plain name t get put hplain hput fun hoption => ?_
    rw [hblank]
    cases t <;> first | contradiction | rfl
  | enum name t x _ hlisted hvariant =>
    exact .enum name t get put hput hblank (hx ▸ hlisted) (hx ▸ hvariant)
  | typeName name x hregistered => exact .typeName name get put hput hblank (hx ▸ hregistered)

theorem Restorable.determined {x : d.Carrier} (h : d.Restorable types x)
    (hget : (d.model get put).get r = (d.model get put).get r') : get r = get r' := by
  cases h with
  | plain name t x hplain => exact FieldType.encode_injective hplain hget
  | enum name t x hlabel =>
    exact Value.eq_of_getD_null (fun _ => rfl)
      (fun y z h => hlabel (congrArg EnumLabel.label (Value.enum.inj h))) hget
  | typeName name x =>
    have hencode := FieldType.encode_option_typeName
    exact Value.eq_of_getD_null (fun _ => rfl) (fun y z h => Value.type.inj h)
      ((hencode _).symm.trans (hget.trans (hencode _)))

end FieldDeclaration

namespace DeclaredRecord

def Restorable (types : TypeRegistry) : (ds : List FieldDeclaration) → DeclaredRecord ds → Prop
  | [], _ => True
  | d :: ds, r => d.Restorable types r.1 ∧ Restorable types ds r.2

variable {types : TypeRegistry} {ds : List FieldDeclaration} {get : ρ → DeclaredRecord ds}
  {put : DeclaredRecord ds → ρ → ρ} {f : FieldModel ρ} {record : ρ}

theorem restorable_fields (h : Restorable types ds (get record))
    (hput : ∀ x r, get (put x r) = x) {start : ρ} (hblank : get start = blank ds)
    (hf : f ∈ fields ds get put) : f.Restorable types start record := by
  induction ds with
  | nil => exact absurd hf List.not_mem_nil
  | cons d ds ih =>
    rcases List.mem_cons.mp hf with rfl | hf
    · exact h.1.model (fun r => (get r).1) (fun _ _ => congrArg Prod.fst (hput _ _))
        (congrArg Prod.fst hblank)
    · exact ih h.2 (fun _ _ => congrArg Prod.snd (hput _ _)) (congrArg Prod.snd hblank) hf

theorem determined_fields {x : DeclaredRecord ds} (h : Restorable types ds x) {r r' : ρ}
    (hget : ∀ f ∈ fields ds get put, f.get r = f.get r') : get r = get r' := by
  induction ds with
  | nil => rfl
  | cons d ds ih =>
    have hfirst := h.1.determined (hget _ List.mem_cons_self)
    have hrest := ih h.2 fun f hf => hget f (List.mem_cons_of_mem _ hf)
    exact Prod.ext hfirst hrest

end DeclaredRecord

theorem RecordModel.restorable_declare {typeName resource : String} {ds : List FieldDeclaration}
    {naming : Naming} {types : TypeRegistry} {record : DeclaredRecord ds}
    (hdistinct : (ColumnNames.ofModel (declare typeName resource ds) naming).columns.Nodup)
    (h : DeclaredRecord.Restorable types ds record) :
    (declare typeName resource ds).Restorable naming types record where
  lawful := lawful_declare typeName resource ds
  determined _ _ hget := DeclaredRecord.determined_fields h hget
  distinct := hdistinct
  fields _ hf := DeclaredRecord.restorable_fields h (fun _ _ => rfl) rfl hf

namespace ColumnTable

variable {table : ColumnTable ρ} {model : RecordModel ρ} {naming : Naming} {f : FieldModel ρ}

structure IsOf (t : ColumnTable ρ) (model : RecordModel ρ) (naming : Naming) : Prop where
  model_eq : t.model = model
  columns_eq : t.names.columns = (ColumnNames.ofModel model naming).columns

theorem IsOf.columns (h : table.IsOf model naming) :
    table.columns = model.fields.map fun f => (naming.normalize f.name, f) := by
  have hzip : (model.fields.map fun f => naming.normalize f.name).zip (model.fields.map id) =
      model.fields.map fun f => (naming.normalize f.name, f) := List.zip_map'
  rw [List.map_id] at hzip
  rw [ColumnTable.columns, h.model_eq, h.columns_eq]
  exact hzip

theorem IsOf.field?_eq (h : table.IsOf model naming)
    (hdistinct : (ColumnNames.ofModel model naming).columns.Nodup) (hf : f ∈ model.fields) :
    table.field? (naming.normalize f.name) = some f := by
  rw [field?, h.columns]
  apply NamedValues.lookup_eq_some_of_forall
  · exact ⟨_, List.mem_reverse.mpr (List.mem_map_of_mem hf), rfl⟩
  · intro e he hname
    obtain ⟨g, hg, rfl⟩ := List.mem_map.mp (List.mem_reverse.mp he)
    exact List.inj_on_of_nodup_map hdistinct hg hf hname

end ColumnTable

namespace Materializer

variable {m : Materializer} {table : ColumnTable ρ} {model : RecordModel ρ} {f : FieldModel ρ}
  {column : String} {columns : List (String × Value)} {blank record : ρ}

theorem assign_events (h : ∀ e ∈ columns, ∀ r, (m.assignColumn table r e).2 = []) (r : ρ) :
    (m.assign table r columns).2 = [] := by
  induction columns generalizing r with
  | nil => rfl
  | cons e columns ih =>
    rw [assign_cons, h e List.mem_cons_self, ih fun d hd => h d (List.mem_cons_of_mem e hd),
      List.append_nil]

theorem readBack_coerce (hf : f.Restorable m.types blank record)
    (hv : (f.get record).isNull = false) (r : ρ) :
    m.readBack f (f.get record).coerce r = some (f.get record) := by
  obtain ⟨r', hset, hget⟩ := hf.setLifted hv r
  rw [readBack, Value.isNull_coerce, hv, hset, if_neg Bool.false_ne_true, ← hget]
  rfl

section Written

variable (hmodel : model.Restorable m.naming m.types record) (htable : table.IsOf model m.naming)
  (hf : f ∈ model.fields)

include hmodel htable hf

theorem get_record_of_forall_ne
    (h : ∀ e ∈ columns, m.naming.normalize e.1 ≠ m.naming.normalize f.name) :
    f.get (m.record table columns).1 = f.get model.blank := by
  have hlaw : table.model.Lawful := htable.model_eq ▸ hmodel.lawful
  have hfield := htable.field?_eq hmodel.distinct hf
  rw [get_record hlaw hfield, filed_eq_none h, Option.getD_none, htable.model_eq]

theorem get_record_written (h : ∀ e ∈ model.writtenColumns m.naming record,
      (m.naming.normalize e.1 = m.naming.normalize f.name ↔ e.1 = m.naming.normalize f.name)) :
    f.get (m.record table (model.writtenColumns m.naming record)).1 = f.get record := by
  have hrestorable := hmodel.fields f hf
  -- the columns are distinct, so that under the field's own column comes nothing but its value
  have hown : ∀ e ∈ model.writtenColumns m.naming record, e.1 = m.naming.normalize f.name →
      (f.get record).isNull = false ∧ e.2 = (f.get record).coerce := by
    intro e he hname
    obtain ⟨g, hg, hv, rfl⟩ := RecordModel.mem_writtenColumns.mp he
    obtain rfl := List.inj_on_of_nodup_map hmodel.distinct hg hf hname
    exact ⟨hv, rfl⟩
  cases hv : (f.get record).isNull with
  | true =>
    rw [get_record_of_forall_ne hmodel htable hf, hrestorable.get_blank hv]
    intro e he heq
    have hfull := (hown e he ((h e he).mp heq)).1
    exact absurd (hv.symm.trans hfull) (by decide)
  | false =>
    have hlaw : table.model.Lawful := htable.model_eq ▸ hmodel.lawful
    have hmem : (m.naming.normalize f.name, (f.get record).coerce) ∈
        model.writtenColumns m.naming record :=
      RecordModel.mem_writtenColumns.mpr ⟨f, hf, hv, rfl⟩
    have hfiled := filed_eq_some (m := m) (f := f) ⟨_, hmem, (h _ hmem).mpr rfl⟩
      (fun e he heq => (hown e he ((h e he).mp heq)).2)
      (readBack_coerce hrestorable hv table.model.blank)
    rw [get_record hlaw (htable.field?_eq hmodel.distinct hf), hfiled]
    rfl

omit hf

theorem record_written
    (h : ∀ e ∈ model.writtenColumns m.naming record, m.naming.normalize e.1 = e.1) :
    m.record table (model.writtenColumns m.naming record) = (record, []) := by
  refine Prod.ext ?_ (assign_events (fun e he r => ?_) _)
  · refine hmodel.determined _ _ fun f hf => get_record_written hmodel htable hf fun e he => ?_
    rw [h e he]
  · have hname := h e he
    obtain ⟨f, hf, hv, rfl⟩ := RecordModel.mem_writtenColumns.mp he
    obtain ⟨r', hset, -⟩ := (hmodel.fields f hf).setLifted hv r
    have hnull : ¬ (f.get record).coerce.isNull = true := by
      rw [Value.isNull_coerce, hv]
      exact Bool.false_ne_true
    rw [assignColumn, if_neg hnull, hname, htable.field?_eq hmodel.distinct hf]
    simp only [hset]

end Written

end Materializer

end WideColumn

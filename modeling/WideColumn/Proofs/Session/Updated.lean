import WideColumn.Proofs.Session.WriteBack

namespace WideColumn

variable {ρ : Type}

namespace Row

def updated (row : Row) (columns : List (String × Value)) (column : String) : Option Value :=
  (columns.reverse.lookup column).or (row.get? column)

variable {naming : Naming} {row : Row} {columns : List (String × Value)} {column : String}

def updatedMap (naming : Naming) (row : Row) (columns : List (String × Value)) : RowMap :=
  columns.foldl (fun map e => map.set e.1 e.2) (RowMap.ofRow naming row)

theorem IsNative.get?_updatedMap (hrow : row.IsNative naming) :
    (row.updatedMap naming columns).get? column = row.updated columns column := by
  rw [updatedMap, NamedValues.get?_foldl_set, hrow.get?_ofRow, updated]

theorem IsNative.normalized_updatedMap (hrow : row.IsNative naming)
    (hcolumns : ∀ e ∈ columns, naming.normalize e.1 = e.1) :
    ∀ e ∈ (row.updatedMap naming columns).entries, naming.normalize e.1 = e.1 := by
  intro e he
  have hname : e.1 ∈ (row.updatedMap naming columns).names := List.mem_map_of_mem he
  rw [updatedMap, NamedValues.mem_names_foldl_set, RowMap.ofRow, NamedValues.names_ofList,
    List.mem_eraseDups, List.map_map] at hname
  rcases hname with hname | hname
  · obtain ⟨d, hd, hdname⟩ := List.mem_map.mp hname
    rw [← hdname, Function.comp_apply, hrow.normalized d hd]
    exact hrow.normalized d hd
  · obtain ⟨d, hd, hdname⟩ := List.mem_map.mp hname
    rw [← hdname]
    exact hcolumns d hd

end Row

namespace Materializer

variable {m : Materializer} {table : ColumnTable ρ} {column : String} {f : FieldModel ρ}
  {record : ρ} {row : Row} {columns : List (String × Value)} {u v : Value}

theorem filed_append (before after : List (String × Value)) :
    m.filed f record column (before ++ after) =
      (m.filed f record column after).or (m.filed f record column before) := by
  rw [filed, filed, filed, List.filterMap_append, List.getLast?_append]

theorem filed_eq_none_of_ne (hcolumns : ∀ e ∈ columns, m.naming.normalize e.1 = e.1)
    (hnone : ∀ e ∈ columns, e.1 ≠ column) : m.filed f record column columns = none :=
  filed_eq_none fun e he => (hcolumns e he).symm ▸ hnone e he

theorem filed_eq_lookup (hcolumns : ∀ e ∈ columns, m.naming.normalize e.1 = e.1)
    (hdistinct : (columns.map Prod.fst).Nodup) :
    m.filed f record column columns =
      (columns.lookup column).bind fun v => m.readBack f v record := by
  cases hv : columns.lookup column with
  | none =>
    have habsent := List.lookup_eq_none_iff.mp hv
    exact filed_eq_none_of_ne hcolumns fun e he => (bne_iff_ne.mp (habsent e he)).symm
  | some v =>
    obtain ⟨before, after, hsplit, -⟩ := List.lookup_eq_some_iff.mp hv
    have hmem : (column, v) ∈ columns := hsplit ▸ by simp
    refine filed_eq_readBack ⟨_, hmem, hcolumns _ hmem⟩ fun e he hname => ?_
    rw [hcolumns e he] at hname
    exact congrArg Prod.snd (List.inj_on_of_nodup_map hdistinct he hmem hname)

theorem filed_of_lookup_reverse (hcolumns : ∀ e ∈ columns, m.naming.normalize e.1 = e.1)
    (hv : columns.reverse.lookup column = some v) (hu : m.readBack f v record = some u) :
    m.filed f record column columns = some u := by
  -- from the end of the list: the last column of the name decides, those before it never show
  induction columns using List.reverseRecOn with
  | nil => contradiction
  | append_singleton columns e ih =>
    obtain ⟨hfirst, hlast⟩ := List.forall_mem_append.mp hcolumns
    have he : m.naming.normalize e.1 = e.1 := hlast e (List.mem_singleton_self e)
    rw [List.reverse_append, List.reverse_singleton, List.singleton_append,
      NamedValues.lookup_cons] at hv
    rw [filed_append, filed_cons, filedOf, he]
    by_cases hname : column = e.1
    · rw [if_pos hname] at hv
      rw [if_pos hname.symm, Option.some.inj hv, hu]
      rfl
    · rw [if_neg hname] at hv
      rw [if_neg (Ne.symm hname), ih hfirst hv]
      rfl

def assigned (m : Materializer) (table : ColumnTable ρ) (row : Row)
    (columns : List (String × Value)) : ρ :=
  (m.assign table (m.ofRow table row) columns).1

def remade (m : Materializer) (table : ColumnTable ρ) (row : Row)
    (columns : List (String × Value)) : ρ :=
  (m.record table (row.updatedMap m.naming columns).entries).1

def Clears (m : Materializer) (table : ColumnTable ρ) (columns : List (String × Value))
    (column : String) (f : FieldModel ρ) (record : ρ) : Prop :=
  ∀ v, columns.reverse.lookup column = some v → m.readBack f v table.model.blank = none →
    f.get record = f.get table.model.blank

section Fields

variable (hrow : row.IsNative m.naming) (hcolumns : ∀ e ∈ columns, m.naming.normalize e.1 = e.1)

include hrow

theorem filed_row :
    m.filed f record column row.columns =
      (row.get? column).bind fun v => m.readBack f v record :=
  filed_eq_lookup hrow.normalized hrow.distinct

include hcolumns

theorem filed_unset (hnone : columns.reverse.lookup column = none) :
    m.filed f record column (row.columns ++ columns) =
      (row.get? column).bind fun v => m.readBack f v record := by
  have habsent := List.lookup_eq_none_iff.mp hnone
  have hcolumn : m.filed f record column columns = none :=
    filed_eq_none_of_ne hcolumns fun e he =>
      (bne_iff_ne.mp (habsent e (List.mem_reverse.mpr he))).symm
  rw [filed_append, hcolumn, filed_row hrow]
  rfl

theorem filed_updated (hv : row.updated columns column = some v)
    (hu : m.readBack f v record = some u) :
    m.filed f record column (row.columns ++ columns) = some u := by
  rw [Row.updated] at hv
  cases hset : columns.reverse.lookup column with
  | none =>
    rw [hset, Option.none_or] at hv
    rw [filed_unset hrow hcolumns hset, hv]
    exact hu
  | some v' =>
    rw [hset, Option.some_or] at hv
    cases hv
    rw [filed_append, filed_of_lookup_reverse hcolumns hset hu]
    rfl

variable (hlaw : table.model.Lawful) (hf : table.field? column = some f)

omit hrow hcolumns in
include hlaw hf in
theorem get_assigned : f.get (m.assigned table row columns) =
    (m.filed f table.model.blank column (row.columns ++ columns)).getD
      (f.get table.model.blank) := by
  rw [assigned, get_assign hlaw hf table.model.blank, ofRow, get_record hlaw hf, filed_append]
  cases m.filed f table.model.blank column columns <;> rfl

include hlaw hf

theorem get_remade : f.get (m.remade table row columns) =
    ((row.updated columns column).bind fun v => m.readBack f v table.model.blank).getD
      (f.get table.model.blank) := by
  rw [remade, get_record hlaw hf, ← hrow.get?_updatedMap,
    filed_eq_lookup (hrow.normalized_updatedMap hcolumns) (row.updatedMap m.naming columns).nodup]
  rfl

theorem get_assigned_of_readBack (hv : row.updated columns column = some v)
    (hu : m.readBack f v table.model.blank = some u) :
    f.get (m.assigned table row columns) = u := by
  rw [get_assigned hlaw hf, filed_updated hrow hcolumns hv hu]
  rfl

theorem get_assigned_eq_iff :
    f.get (m.assigned table row columns) = f.get (m.remade table row columns) ↔
      m.Clears table columns column f (m.assigned table row columns) := by
  have hremade := get_remade hrow hcolumns hlaw hf
  rw [Clears]
  cases hset : columns.reverse.lookup column with
  | none =>
    have hupdated : row.updated columns column = row.get? column := by
      rw [Row.updated, hset, Option.none_or]
    rw [get_assigned hlaw hf, filed_unset hrow hcolumns hset, hremade, hupdated]
    exact iff_of_true rfl nofun
  | some v =>
    have hupdated : row.updated columns column = some v := by
      rw [Row.updated, hset, Option.some_or]
    rw [hupdated, Option.bind_some] at hremade
    cases hu : m.readBack f v table.model.blank with
    | none =>
      -- the new record is blank, and the old one may hold what it held before
      rw [hremade, hu, Option.getD_none]
      refine ⟨fun h _ _ _ => h, fun h => h v rfl hu⟩
    | some u =>
      rw [hremade, hu, get_assigned_of_readBack hrow hcolumns hlaw hf hupdated hu]
      refine iff_of_true rfl fun v' hv' hnone => ?_
      cases hv'
      rw [hu] at hnone
      contradiction

end Fields

end Materializer

end WideColumn

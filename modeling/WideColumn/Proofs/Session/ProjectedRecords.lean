import WideColumn.Proofs.Session.WriteBack

namespace WideColumn

def requestedColumns (naming : Naming) (fields : List ReturnField) : List String :=
  fields.map fun f => naming.normalize f.name

variable {ρ : Type}

namespace ColumnTable

def BlankBeyond (t : ColumnTable ρ) (columns : List String) (record : ρ) : Prop :=
  ∀ e ∈ t.columns, e.1 ∉ columns → e.2.get record = e.2.get t.model.blank

def AlikeOn (t : ColumnTable ρ) (columns : List String) (record record' : ρ) : Prop :=
  ∀ e ∈ t.columns, e.1 ∈ columns → e.2.get record = e.2.get record'

end ColumnTable

section Answers

variable {naming : Naming} {row : Row} {fields : List ReturnField} {column : String}
  {e : String × Value}

theorem Row.mem_answer (hplain : ∀ f ∈ fields, f.asName = none) :
    e ∈ (row.answer (SelectPlan.selectItems naming (.native fields))).columns ↔
      e.1 ∈ requestedColumns naming fields ∧ row.get? e.1 = some e.2 := by
  simp only [answer, SelectPlan.selectItems, List.filterMap_map, List.mem_filterMap,
    Function.comp_apply, SelectPlan.selectItem, Option.map_eq_some_iff, requestedColumns,
    List.mem_map]
  constructor
  · rintro ⟨f, hf, v, hv, rfl⟩
    rw [hplain f hf]
    exact ⟨⟨f, hf, rfl⟩, hv⟩
  · rintro ⟨⟨f, hf, hname⟩, hv⟩
    refine ⟨f, hf, e.2, hname ▸ hv, ?_⟩
    rw [hplain f hf, Option.map_none, Option.getD_none, hname]

theorem Row.Spells.normalize_of_get? (h : row.Spells naming column) {v : Value}
    (hv : row.get? column = some v) : naming.normalize column = column := by
  obtain ⟨⟨e, he, hcolumn⟩, -⟩ := h.onlyValue hv
  have hname := (h.own e he).mp hcolumn
  rw [← hname, hcolumn, hname]

theorem Row.normalize_answer (hplain : ∀ f ∈ fields, f.asName = none)
    (hspells : ∀ column ∈ requestedColumns naming fields, row.Spells naming column)
    (he : e ∈ (row.answer (SelectPlan.selectItems naming (.native fields))).columns) :
    naming.normalize e.1 = e.1 := by
  obtain ⟨hrequested, hv⟩ := (mem_answer hplain).mp he
  exact (hspells e.1 hrequested).normalize_of_get? hv

end Answers

namespace Materializer

variable {m : Materializer} {table : ColumnTable ρ} {row : Row} {fields : List ReturnField}
  {column : String} {f : FieldModel ρ}

def ofAnswer (m : Materializer) (table : ColumnTable ρ) (fields : List ReturnField) (row : Row) :
    ρ :=
  m.ofRow table (row.answer (SelectPlan.selectItems m.naming (.native fields)))

def LeavesBlank (m : Materializer) (table : ColumnTable ρ) (columns : List String) (row : Row) :
    Prop :=
  ∀ column f, table.field? column = some f → column ∉ columns →
    m.held table row.columns column = some (f.get table.model.blank)

theorem filed_answer (hplain : ∀ f ∈ fields, f.asName = none)
    (hspells : ∀ column ∈ requestedColumns m.naming fields, row.Spells m.naming column)
    (hcolumn : column ∈ requestedColumns m.naming fields) (record : ρ) :
    let answered := row.answer (SelectPlan.selectItems m.naming (.native fields))
    m.filed f record column answered.columns = m.filed f record column row.columns := by
  intro answered
  have hget : ∀ e ∈ answered.columns, m.naming.normalize e.1 = column →
      row.get? column = some e.2 := by
    intro e he hname
    rw [← hname, Row.normalize_answer hplain hspells he]
    exact ((Row.mem_answer hplain).mp he).2
  cases hv : row.get? column with
  | some v =>
    obtain ⟨hstored, hvalue⟩ := (hspells column hcolumn).onlyValue hv
    have hmem : (column, v) ∈ answered.columns := (Row.mem_answer hplain).mpr ⟨hcolumn, hv⟩
    have hanswered : ∃ e ∈ answered.columns, m.naming.normalize e.1 = column :=
      ⟨_, hmem, Row.normalize_answer hplain hspells hmem⟩
    rw [filed_eq_readBack hstored hvalue, filed_eq_readBack hanswered]
    intro e he hname
    exact (Option.some.inj (hv.symm.trans (hget e he hname))).symm
  | none =>
    have hstored : ∀ e ∈ row.columns, m.naming.normalize e.1 ≠ column := by
      intro e he hname
      have habsent := List.lookup_eq_none_iff.mp hv e he
      exact bne_iff_ne.mp habsent (((hspells column hcolumn).own e he).mp hname).symm
    have hanswered : ∀ e ∈ answered.columns, m.naming.normalize e.1 ≠ column :=
      fun e he hname => nomatch hv.symm.trans (hget e he hname)
    rw [filed_eq_none hstored, filed_eq_none hanswered]

section Lawful

variable (hlaw : table.model.Lawful)

include hlaw

theorem blankBeyond_ofRow {columns : List String} :
    table.BlankBeyond columns (m.ofRow table row) ↔ m.LeavesBlank table columns row := by
  have hheld {column : String} {f : FieldModel ρ} (hf : table.field? column = some f) :
      m.held table row.columns column = some (f.get (m.ofRow table row)) := by
    rw [← value?_ofRow hlaw, ColumnTable.value?, hf, Option.map_some]
  constructor
  · intro h column f hf hcolumn
    rw [hheld hf]
    exact congrArg some (h (column, f) (ColumnTable.mem_columns hf) hcolumn)
  · rintro h ⟨column, f⟩ he hcolumn
    by_cases hf : table.field? column = some f
    · exact Option.some.inj ((hheld hf).symm.trans (h column f hf hcolumn))
    · -- a later field of the same column takes what comes under it
      exact get_record_spared hlaw he fun hown => absurd hown hf

variable (hplain : ∀ f ∈ fields, f.asName = none)
  (hspells : ∀ column ∈ requestedColumns m.naming fields, row.Spells m.naming column)

include hplain hspells

theorem blankBeyond_ofAnswer :
    table.BlankBeyond (requestedColumns m.naming fields) (m.ofAnswer table fields row) := by
  rintro ⟨column, f⟩ he hcolumn
  apply get_record_spared hlaw he
  intro _ e hanswered hname
  rw [Row.normalize_answer hplain hspells hanswered] at hname
  exact hcolumn (hname ▸ ((Row.mem_answer hplain).mp hanswered).1)

theorem alikeOn_ofAnswer : table.AlikeOn (requestedColumns m.naming fields)
    (m.ofAnswer table fields row) (m.ofRow table row) := by
  rintro ⟨column, f⟩ he hcolumn
  by_cases hf : table.field? column = some f
  · rw [ofAnswer, ofRow, ofRow, get_record hlaw hf, get_record hlaw hf,
      filed_answer hplain hspells hcolumn]
  · have hblank (columns : List (String × Value)) :
        f.get (m.record table columns).1 = f.get table.model.blank :=
      get_record_spared hlaw he fun hown => absurd hown hf
    exact (hblank _).trans (hblank _).symm

theorem ofAnswer_alike_iff :
    (∀ e ∈ table.columns, e.2.get (m.ofAnswer table fields row) = e.2.get (m.ofRow table row)) ↔
      m.LeavesBlank table (requestedColumns m.naming fields) row := by
  have hblank := blankBeyond_ofAnswer hlaw hplain hspells
  rw [← blankBeyond_ofRow hlaw]
  constructor
  · intro h e he hcolumn
    rw [← h e he, hblank e he hcolumn]
  · intro h e he
    by_cases hcolumn : e.1 ∈ requestedColumns m.naming fields
    · exact alikeOn_ofAnswer hlaw hplain hspells e he hcolumn
    · rw [hblank e he hcolumn, h e he hcolumn]

end Lawful

end Materializer

namespace Session

variable {ω : Type} {s : Session ω} {model : RecordModel ρ} {q : Query} {params : List Value}
  {plan : SelectPlan} {stored : List Row} {w w' : World ω} {found : ResultSet ρ} {outside : ω}

/-- Records of a query with return fields are blank beyond these if the store selects them. Behind a
filter that remains they are records of whole rows, blank beyond the return fields only where the
rows have nothing there. -/
theorem select_projection (hplan : s.selectPlan q params = .ok plan) (hfields : q.fields ≠ [])
    (hplain : ∀ f ∈ q.fields, f.asName = none)
    (hstored : ∀ row ∈ stored, ∀ column ∈ requestedColumns s.naming q.fields,
      row.Spells s.naming column)
    (hanswer : s.transport.execute plan.statement w.outside = (.ok (stored.map fun row =>
      row.answer (SelectPlan.selectItems s.naming plan.projection)), outside))
    (hselect : (s.select model q params).outcome w = (.ok found, w')) :
    let table := (w.models.table model s.naming).1
    let m : Materializer := ⟨s.naming, w.types⟩
    let columns := requestedColumns s.naming q.fields
    let residual := plan.pushdown.hasResidual
    ∃ kept : List Row, kept.Sublist stored ∧
      (residual = false → found.items = kept.map (m.ofAnswer table q.fields)) ∧
      (residual = true → found.items = kept.map (m.ofRow table)) ∧
      (model.Lawful →
        ((∀ record ∈ found.items, table.BlankBeyond columns record) ↔
          residual = false ∨ ∀ row ∈ kept, m.LeavesBlank table columns row) ∧
        ∀ row ∈ stored,
          table.BlankBeyond columns (m.ofAnswer table q.fields row) ∧
          table.AlikeOn columns (m.ofAnswer table q.fields row) (m.ofRow table row) ∧
          ((∀ e ∈ table.columns,
            e.2.get (m.ofAnswer table q.fields row) = e.2.get (m.ofRow table row)) ↔
            m.LeavesBlank table columns row)) := by
  intro table m columns residual
  have hmodel : table.model = model := ModelRegistry.table_model
  obtain ⟨-, rows, hsublist, hfound⟩ := select_outcome hplan hanswer hselect
  obtain ⟨kept, hkept, rfl⟩ := List.sublist_map_iff.mp hsublist
  rw [List.map_map, projection_of_fields hplan hfields] at hfound
  have hnative (hresidual : residual = false) :
      found.items = kept.map (m.ofAnswer table q.fields) := by
    rw [hfound, if_neg (ne_true_of_eq_false hresidual)]
    rfl
  have hdeferred (hresidual : residual = true) : found.items = kept.map (m.ofRow table) := by
    rw [hfound, if_pos hresidual]
    rfl
  refine ⟨kept, hkept, hnative, hdeferred, fun hlaw => ?_⟩
  rw [← hmodel] at hlaw
  have hblank (row : Row) (hrow : row ∈ stored) :
      table.BlankBeyond columns (m.ofAnswer table q.fields row) :=
    Materializer.blankBeyond_ofAnswer (m := m) hlaw hplain (hstored row hrow)
  refine ⟨?_, fun row hrow => ⟨hblank row hrow,
    Materializer.alikeOn_ofAnswer (m := m) hlaw hplain (hstored row hrow),
    Materializer.ofAnswer_alike_iff (m := m) hlaw hplain (hstored row hrow)⟩⟩
  cases hresidual : residual with
  | false =>
    rw [hnative hresidual, List.forall_mem_map]
    exact iff_of_true (fun row hrow => hblank row (hkept.subset hrow)) (.inl rfl)
  | true =>
    rw [hdeferred hresidual, List.forall_mem_map]
    constructor
    · intro h
      exact .inr fun row hrow => (Materializer.blankBeyond_ofRow hlaw).mp (h row hrow)
    · rintro (hfalse | hleaves) row hrow
      · exact absurd hfalse.symm Bool.false_ne_true
      · exact (Materializer.blankBeyond_ofRow hlaw).mpr (hleaves row hrow)

def namedUserTable : ColumnTable (DeclaredRecord [.plain "id" .int64, .plain "name" .text]) :=
  (ModelRegistry.table {} userModel .identity).1

theorem select_projection_firstUser : ∃ found w' record,
    (idSession.select userModel idsOnly []).outcome { outside := 0 } = (.ok found, w') ∧
      found.items = [record] ∧ namedUserTable.BlankBeyond ["id"] record ∧
      namedUserTable.AlikeOn ["id"] record
        (Materializer.ofRow ⟨.identity, {}⟩ namedUserTable firstUser) := by
  refine ⟨_, _, _, rfl, rfl, ?_⟩
  have hstored : ∀ row ∈ [firstUser], ∀ column ∈ requestedColumns .identity idsOnly.fields,
      row.Spells .identity column := by
    intro row hrow column _
    have hfull : firstUser.IsFull .identity ["id"] := Row.isFull_of_columns rfl (by decide) rfl
    rw [List.mem_singleton.mp hrow]
    exact hfull.spells column
  have hplan : ∃ plan, idSession.selectPlan idsOnly [] = .ok plan ∧
      plan.projection = .native idsOnly.fields := ⟨_, rfl, rfl⟩
  obtain ⟨plan, hplan, hprojection⟩ := hplan
  have hanswer : idSession.transport.execute plan.statement 0 = (.ok ([firstUser].map fun row =>
      row.answer (SelectPlan.selectItems .identity plan.projection)), 1) := by
    rw [hprojection]
    rfl
  have hselected {found : ResultSet _} {w' : World Nat}
      (hselect : (idSession.select userModel idsOnly []).outcome { outside := 0 } =
        (.ok found, w')) :=
    select_projection hplan (List.cons_ne_nil _ _) (by decide) hstored hanswer hselect
  obtain ⟨kept, -, -, -, hlawful⟩ := hselected rfl
  obtain ⟨-, hrows⟩ := hlawful (RecordModel.lawful_declare _ _ _)
  obtain ⟨hblank, halike, -⟩ := hrows firstUser (List.mem_singleton_self firstUser)
  exact ⟨hblank, halike⟩

def idsNamedA : Query :=
  { idsOnly with filter := [.test ⟨"name", .compare .eq, .value (.text "A")⟩] }

/-- A user that was asked for its id alone comes back with its name. -/
theorem select_keeps_unrequested : ∃ s : Session Nat, ∃ plan found w' record,
    s.selectPlan idsNamedA [] = .ok plan ∧
      s.transport.execute plan.statement 0 = (.ok ([firstUser].map fun row =>
        row.answer (SelectPlan.selectItems s.naming plan.projection)), 1) ∧
      (s.select userModel idsNamedA []).outcome { outside := 0 } = (.ok found, w') ∧
      found.items = [record] ∧
      ¬ namedUserTable.BlankBeyond (requestedColumns s.naming idsNamedA.fields) record := by
  refine ⟨{ userSession with transport := answering [firstUser] }, _, _, _, _, rfl, rfl, rfl, rfl,
    fun hblank => ?_⟩
  have hmem := List.get_mem namedUserTable.columns ⟨1, by decide⟩
  have hname : Value.text "A" = .text "" := hblank _ hmem (by decide)
  exact absurd (Value.text.inj hname) (by decide)

end Session

end WideColumn

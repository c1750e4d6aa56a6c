import WideColumn.Proofs.Session.OwnKeys

namespace WideColumn

def Naming.Fixes (naming : Naming) (name : String) : Prop :=
  naming.normalize name = name

namespace RowMap

variable {naming : Naming} {row : Row} {fields : List ReturnField}

theorem project_ofRow (hrow : row.IsNative naming) : (ofRow naming row).project naming fields =
    .ofList (fields.filterMap fun f =>
      (row.get? (naming.normalize f.name)).map fun v => (resultName naming f, v)) := by
  simp only [project, hrow.get?_ofRow]

theorem ofRow_answer : ofRow naming (row.answer (SelectPlan.selectItems naming (.native fields))) =
    .ofList (fields.filterMap fun f => (row.get? (naming.normalize f.name)).map fun v =>
      (Projection.resultName naming (.native fields) f, v)) := by
  simp only [ofRow, Row.answer, SelectPlan.selectItems, List.filterMap_map, List.map_filterMap,
    Function.comp_def, Option.map_map]
  rfl

theorem resultName_native (f : ReturnField) :
    Projection.resultName naming (.native fields) f = naming.normalize (resultName naming f) := by
  rw [Projection.resultName, resultName]
  cases f.asName <;> rfl

theorem project_eq_ofRow_answer (hrow : row.IsNative naming)
    (hnames : ∀ f ∈ fields, naming.Fixes (resultName naming f)) :
    (ofRow naming row).project naming fields =
      ofRow naming (row.answer (SelectPlan.selectItems naming (.native fields))) := by
  rw [project_ofRow hrow, ofRow_answer]
  refine congrArg NamedValues.ofList (List.filterMap_congr fun f hf => ?_)
  rw [resultName_native, hnames f hf]

/-- A map of all columns that is projected is the map of what the store selects: a column for each
return field, of which the first of a name keeps its place and the last its value. -/
theorem project_answered (hrow : row.IsNative naming)
    (hall : ∀ f ∈ fields, (row.get? (naming.normalize f.name)).isSome = true)
    (hnames : ∀ f ∈ fields, naming.Fixes (resultName naming f)) :
    let answered := row.answer (SelectPlan.selectItems naming (.native fields))
    let map := (ofRow naming row).project naming fields
    List.Forall₂ (fun f e => e.1 = (f.asName.map naming.normalize).getD (naming.normalize f.name) ∧
        row.get? (naming.normalize f.name) = some e.2) fields answered.columns ∧
      map = ofRow naming answered ∧
      map.names = (fields.map (resultName naming)).eraseDups ∧
      ∀ name, map.get? name = (fields.reverse.find? fun f => resultName naming f == name).bind
        fun f => row.get? (naming.normalize f.name) := by
  intro answered map
  have hmap : map = _ := project_ofRow hrow
  refine ⟨?_, project_eq_ofRow_answer hrow hnames, ?_, fun name => ?_⟩
  · simp only [answered, Row.answer, SelectPlan.selectItems, List.filterMap_map]
    refine forall₂_filterMap_iff.mpr fun f hf => ?_
    obtain ⟨v, hv⟩ := Option.isSome_iff_exists.mp (hall f hf)
    exact ⟨_, congrArg (Option.map _) hv, rfl, hv⟩
  · rw [hmap, NamedValues.names_ofList, NamedValues.names_filterMap hall]
  · rw [hmap, NamedValues.get?_ofList, ← List.filterMap_reverse, NamedValues.lookup_filterMap]
    exact fun f hf => hall f (List.mem_reverse.mp hf)

def fullUser : Row :=
  ⟨[("tenant_id", .int 1), ("user_id", .int 2), ("display_name", .text "A"), ("status", .null)]⟩

def aliasedFields : List ReturnField :=
  [⟨"displayName", none⟩, ⟨"tenantId", some "userId"⟩, ⟨"userId", some "theId"⟩,
    ⟨"displayName", none⟩, ⟨"tenantId", some "theId"⟩, ⟨"status", none⟩]

theorem project_answered_aliasedFields :
    let answered := fullUser.answer (SelectPlan.selectItems .snakeCase (.native aliasedFields))
    let map := (ofRow .snakeCase fullUser).project .snakeCase aliasedFields
    answered.columns = [("display_name", .text "A"), ("user_id", .int 1), ("the_id", .int 2),
        ("display_name", .text "A"), ("the_id", .int 1), ("status", .null)] ∧
      map = ofRow .snakeCase answered ∧
      map.names = ["display_name", "user_id", "the_id", "status"] ∧
      map.get? "the_id" = some (.int 1) := by
  have hfull : fullUser.IsFull .snakeCase ["tenant_id", "user_id"] :=
    Row.isFull_of_columns (by decide +kernel) (by decide) rfl
  have hall : ∀ f ∈ aliasedFields,
      (fullUser.get? (Naming.snakeCase.normalize f.name)).isSome = true := by decide +kernel
  have hnames : ∀ f ∈ aliasedFields,
      Naming.snakeCase.normalize (resultName .snakeCase f) = resultName .snakeCase f := by
    decide +kernel
  obtain ⟨-, hmap, hmapNames, hget⟩ := project_answered hfull.toIsNative hall hnames
  exact ⟨rfl, hmap, hmapNames.trans (by decide +kernel), (hget "the_id").trans rfl⟩

end RowMap

namespace Session

variable {ω : Type} {s : Session ω} {q : Query} {params : List Value} {plan : SelectPlan}
  {stored : List Row} {w : World ω} {outside : ω}

theorem selectRows_projected (hplan : s.selectPlan q params = .ok plan) (hfields : q.fields ≠ [])
    (hnames : ∀ f ∈ q.fields, s.naming.Fixes (RowMap.resultName s.naming f))
    (hstored : ∀ row ∈ stored, row.IsNative s.naming)
    (hanswer : s.transport.execute plan.statement w.outside = (.ok (stored.map fun row =>
      row.answer (SelectPlan.selectItems s.naming plan.projection)), outside)) :
    (s.selectRows q params).outcome w =
      (.ok (.mapRows ((s.keptRows q plan stored).map fun row =>
        (RowMap.ofRow s.naming row).project s.naming q.fields)),
        { World.record (.sent plan.statement) w with outside }) := by
  have hpresent : ∀ row ∈ s.keptRows q plan stored, plan.projection.present s.naming row =
      (RowMap.ofRow s.naming row).project s.naming q.fields := by
    intro row hrow
    rw [projection_of_fields hplan hfields]
    cases plan.pushdown.hasResidual with
    | true => rfl
    | false =>
      exact (RowMap.project_eq_ofRow_answer (hstored row (keptRows_subset hrow)) hnames).symm
  rw [selectRows, Action.outcome_bind_of_ok (fetchMaps_native hplan hstored hanswer),
    List.map_congr_left hpresent]
  rfl

end Session

end WideColumn

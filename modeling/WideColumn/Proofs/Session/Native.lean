import WideColumn.Proofs.Row.Lookup
import WideColumn.Proofs.Session.Fetch

namespace WideColumn

open Outcome

structure Row.IsNative (naming : Naming) (row : Row) : Prop where
  normalized : ∀ e ∈ row.columns, naming.normalize e.1 = e.1
  distinct : (row.columns.map Prod.fst).Nodup

def Row.answer (row : Row) : Option (List SelectItem) → Row
  | none => row
  | some items => ⟨items.filterMap fun item =>
      (row.get? item.column).map fun v => (item.asName.getD item.column, v)⟩

def Predicate.accepts (source : FieldSource) (filter : List Predicate) : Bool :=
  (allHold source filter).toOption.getD false

def Projection.present (naming : Naming) (projection : Projection) (row : Row) : RowMap :=
  match projection with
  | .all => .ofRow naming row
  | .native fields => .ofRow naming (row.answer (some (fields.map (SelectPlan.selectItem naming))))
  | .deferred fields => (RowMap.ofRow naming row).project naming fields

variable {naming : Naming} {row : Row}

structure Row.Spells (naming : Naming) (row : Row) (column : String) : Prop where
  own : ∀ e ∈ row.columns, naming.normalize e.1 = column ↔ e.1 = column
  single : ∀ e ∈ row.columns, ∀ e' ∈ row.columns, e.1 = column → e'.1 = column → e.2 = e'.2

theorem Row.IsNative.spells (h : row.IsNative naming) (column : String) :
    row.Spells naming column where
  own e he := by rw [h.normalized e he]
  single e he e' he' hname hname' := by
    rw [List.inj_on_of_nodup_map h.distinct he he' (hname.trans hname'.symm)]

theorem Row.Spells.get?_ofRow {column : String} (h : row.Spells naming column) :
    (RowMap.ofRow naming row).get? column = row.get? column := by
  rw [RowMap.ofRow, NamedValues.get?_ofList, get?]
  by_cases hcolumn : ∃ e ∈ row.columns, e.1 = column
  · obtain ⟨e, he, hname⟩ := hcolumn
    have hstored : row.columns.lookup column = some e.2 :=
      NamedValues.lookup_eq_some_of_forall ⟨e, he, hname⟩
        fun d hd hdname => h.single d hd e he hdname hname
    rw [hstored]
    apply NamedValues.lookup_eq_some_of_forall
    · exact ⟨_, List.mem_reverse.mpr (List.mem_map_of_mem he), (h.own e he).mpr hname⟩
    · intro d hd hdname
      obtain ⟨d', hd', rfl⟩ := List.mem_map.mp (List.mem_reverse.mp hd)
      exact h.single d' hd' e he ((h.own d' hd').mp hdname) hname
  · have hnone : ∀ e ∈ row.columns, e.1 ≠ column := fun e he hname => hcolumn ⟨e, he, hname⟩
    have hstored : row.columns.lookup column = none :=
      List.lookup_eq_none_iff.mpr fun e he => bne_iff_ne.mpr (hnone e he).symm
    rw [hstored, List.lookup_eq_none_iff]
    intro d hd
    obtain ⟨d', hd', rfl⟩ := List.mem_map.mp (List.mem_reverse.mp hd)
    exact bne_iff_ne.mpr fun hname => hnone d' hd' ((h.own d' hd').mp hname.symm)

theorem Row.IsNative.get?_ofRow (h : row.IsNative naming) (column : String) :
    (RowMap.ofRow naming row).get? column = row.get? column :=
  (h.spells column).get?_ofRow

theorem Predicate.accepts_nil (source : FieldSource) : accepts source [] = true := rfl

theorem Predicate.accepts_congr {source source' : FieldSource} {filter : List Predicate}
    (h : ReadAlike source source' (leavesOf filter)) :
    accepts source filter = accepts source' filter := by
  rw [accepts, accepts, allHold_congr filter h]

theorem Predicate.allHold_eq_accepts {filter : List Predicate} (hf : IsBound filter)
    (source : FieldSource) : allHold source filter = .ok (accepts source filter) := by
  obtain ⟨b, hb⟩ := exists_allHold source filter hf
  rw [accepts, hb]
  rfl

namespace Window

variable {α β : Type}

theorem apply_map (f : α → β) (start limit : Option UInt32) (rows : List α) :
    apply start limit (rows.map f) = (apply start limit rows).map f := by
  cases start <;> cases limit <;> simp [apply, dropStart, takeLimit, List.map_drop, List.map_take]

theorem apply_sublist (start limit : Option UInt32) (rows : List α) :
    (apply start limit rows).Sublist rows := by
  cases start with
  | none => cases limit with
    | none => exact .refl _
    | some limit => exact List.take_sublist _ _
  | some start => cases limit with
    | none => exact List.drop_sublist _ _
    | some limit => exact (List.take_sublist _ _).trans (List.drop_sublist _ _)

end Window

namespace Session

variable {ω α : Type} {s : Session ω} {q : Query} {params : List Value} {plan : SelectPlan}
  {filter : List Predicate}

theorem keepMatching_eq (hf : Predicate.IsBound filter) (source : α → FieldSource)
    (items : List α) : keepMatching source filter items =
      .ok (items.filter fun item => Predicate.accepts (source item) filter) := by
  induction items with
  | nil => rfl
  | cons item items ih =>
    rw [keepMatching, Predicate.allHold_eq_accepts hf, ih, List.filter_cons]
    cases Predicate.accepts (source item) filter <;> rfl

def mapVerdict (naming : Naming) (filter : List Predicate) (post : PostEvaluation) (row : Row) :
    Bool :=
  match post with
  | .rawRows => Predicate.accepts (.ofRow naming row) filter
  | .materialized => Predicate.accepts (.ofMap naming (.ofRow naming row)) filter

theorem mapVerdict_of_spells {naming : Naming} {row : Row} (post : PostEvaluation)
    (h : ∀ t ∈ Predicate.leavesOf filter, row.Spells naming (naming.normalize t.field)) :
    mapVerdict naming filter post row = Predicate.accepts (.ofRow naming row) filter := by
  cases post with
  | rawRows => rfl
  | materialized =>
    apply Predicate.accepts_congr
    intro t ht
    rw [FieldSource.ofRow, FieldSource.ofMap, (h t ht).get?_ofRow]

theorem keepMaps_verdict (hf : Predicate.IsBound filter) (rows : List Row) :
    s.keepMaps filter rows = .ok ((rows.filter (mapVerdict s.naming filter s.postEvaluation)).map
      (RowMap.ofRow s.naming)) := by
  rw [keepMaps]
  cases s.postEvaluation with
  | rawRows =>
    simp only [keepMatching_eq hf]
    rfl
  | materialized =>
    simp only [keepMatching_eq hf, List.filter_map]
    rfl

theorem keepMaps_eq (hf : Predicate.IsBound filter) {rows : List Row}
    (hrows : ∀ row ∈ rows, ∀ t ∈ Predicate.leavesOf filter,
      row.Spells s.naming (s.naming.normalize t.field)) :
    s.keepMaps filter rows = .ok ((rows.filter fun row =>
      Predicate.accepts (.ofRow s.naming row) filter).map (RowMap.ofRow s.naming)) := by
  rw [keepMaps_verdict hf,
    List.filter_congr fun row hrow => mapVerdict_of_spells s.postEvaluation (hrows row hrow)]

theorem fetchMaps_outcome {rows : List Row} {maps : List RowMap} {w : World ω} {o : ω}
    (hplan : s.selectPlan q params = .ok plan)
    (hanswer : s.transport.execute plan.statement w.outside = (.ok rows, o))
    (hkept : s.keepMaps plan.pushdown.residual.filter rows = .ok maps) :
    (s.fetchMaps q params).outcome w =
      (.ok (s.applyProjection plan.projection (Window.apply q.start q.limit maps)),
        { World.record (.sent plan.statement) w with outside := o }) := by
  rw [fetchMaps, Action.outcome_bind_of_ok (runSelect_outcome hplan hanswer)]
  dsimp only
  rw [hkept]
  rfl

def keptRows (s : Session ω) (q : Query) (plan : SelectPlan) (stored : List Row) : List Row :=
  Window.apply q.start q.limit (stored.filter fun row =>
    Predicate.accepts (.ofRow s.naming row) plan.pushdown.residual.filter)

theorem keptRows_subset {stored : List Row} : s.keptRows q plan stored ⊆ stored :=
  fun _ h => List.mem_of_mem_filter ((Window.apply_sublist _ _ _).subset h)

theorem filter_of_native {fields : List ReturnField} (hplan : s.selectPlan q params = .ok plan)
    (h : plan.projection = .native fields) : plan.pushdown.residual.filter = [] := by
  obtain ⟨_, pushdown, -, rfl, hprojection, -⟩ := selectPlan_eq_ok hplan
  rw [hprojection, Projection.choose] at h
  split at h
  · cases h
  split at h
  · cases h
  · next hresidual => simpa [Pushdown.hasResidual, Query.hasFilter] using hresidual

theorem projection_of_fields (hplan : s.selectPlan q params = .ok plan) (hfields : q.fields ≠ []) :
    plan.projection =
      if plan.pushdown.hasResidual then .deferred q.fields else .native q.fields := by
  obtain ⟨_, pushdown, -, rfl, hprojection, -⟩ := selectPlan_eq_ok hplan
  rw [hprojection, Projection.choose, List.isEmpty_eq_false_iff.mpr hfields]
  rfl

theorem isBound_of_selectPlan (hplan : s.selectPlan q params = .ok plan) :
    Predicate.IsBound plan.pushdown.residual.filter := by
  obtain ⟨_, _, hpushdown, rfl, -, -⟩ := selectPlan_eq_ok hplan
  exact q.isBound_residual hpushdown

theorem fetchMaps_native {stored : List Row} {w : World ω} {o : ω}
    (hplan : s.selectPlan q params = .ok plan) (hstored : ∀ row ∈ stored, row.IsNative s.naming)
    (hanswer : s.transport.execute plan.statement w.outside = (.ok (stored.map fun row =>
      row.answer (SelectPlan.selectItems s.naming plan.projection)), o)) :
    (s.fetchMaps q params).outcome w =
      (.ok ((s.keptRows q plan stored).map (plan.projection.present s.naming)),
        { World.record (.sent plan.statement) w with outside := o }) := by
  have hbound := isBound_of_selectPlan hplan
  have hwhole : stored.map (fun row => row.answer none) = stored := List.map_id _
  have hspells : ∀ row ∈ stored, ∀ t ∈ Predicate.leavesOf plan.pushdown.residual.filter,
      row.Spells s.naming (s.naming.normalize t.field) :=
    fun row hrow t _ => (hstored row hrow).spells _
  cases hprojection : plan.projection with
  | all =>
    rw [hprojection, SelectPlan.selectItems, hwhole] at hanswer
    rw [fetchMaps_outcome hplan hanswer (keepMaps_eq hbound hspells), hprojection,
      Window.apply_map]
    rfl
  | deferred fields =>
    rw [hprojection, SelectPlan.selectItems, hwhole] at hanswer
    rw [fetchMaps_outcome hplan hanswer (keepMaps_eq hbound hspells), hprojection,
      Window.apply_map, applyProjection, List.map_map]
    rfl
  | native fields =>
    -- what comes back under an alias is not native, but there is no filter to read it
    have hnil := filter_of_native hplan hprojection
    have hnone : ∀ t ∈ Predicate.leavesOf plan.pushdown.residual.filter, False := by
      rw [hnil]
      exact List.forall_mem_nil _
    rw [hprojection] at hanswer
    rw [fetchMaps_outcome hplan hanswer
      (keepMaps_eq hbound fun row _ t ht => (hnone t ht).elim), hprojection,
      Window.apply_map, keptRows, hnil]
    simp only [Predicate.accepts_nil, List.filter_true, Window.apply_map, List.map_map]
    rfl

end Session

end WideColumn

import WideColumn.Proofs.Plan.PerColumn
import WideColumn.Proofs.Query.Verdicts
import WideColumn.Proofs.Session.Action
import WideColumn.Session.Select

namespace WideColumn

open Outcome

theorem Query.isBound_residual {q : Query} {keys : KeyLayout} {naming : Naming}
    {params : List Value} {p : Pushdown} (h : q.plan keys naming params = .ok p) :
    Predicate.IsBound p.residual.filter := by
  obtain ⟨b, hb, -, -, hresidual⟩ := plan_eq_ok h
  obtain ⟨bs, hbs, rfl⟩ := bind_eq_ok.mp hb
  intro t ht
  rw [hresidual] at ht
  exact Predicate.isBound_bindAll _ hbs t ((reduce_pruned _ p.pushed).leaves_subset ht)

namespace Session

variable {ω α : Type}

def selectPlan (s : Session ω) (q : Query) (params : List Value) : Except Error SelectPlan := do
  let resource ← (s.resourceName q.resource).mapError ToError.toError
  let keys ← (KeyLayout.resolve s.catalog resource).mapError ToError.toError
  (SelectPlan.build q keys s.naming params).mapError ToError.toError

variable {s : Session ω} {q : Query} {params : List Value} {plan : SelectPlan}

theorem runSelect_eq : s.runSelect q params = (do
    let plan ← Action.ofExcept (s.selectPlan q params)
    let rows ← s.execute plan.statement
    return (plan, rows)) := by
  simp only [runSelect, selectPlan, Action.ofExcept_bind, Action.ofExcept_mapError, bind_assoc]

theorem runSelect_outcome {rows : List Row} {w : World ω} {o : ω}
    (hplan : s.selectPlan q params = .ok plan)
    (hanswer : s.transport.execute plan.statement w.outside = (.ok rows, o)) :
    (s.runSelect q params).outcome w =
      (.ok (plan, rows), { World.record (.sent plan.statement) w with outside := o }) := by
  rw [runSelect_eq, hplan, Action.ofExcept_ok, pure_bind,
    Action.outcome_bind_of_ok (execute_ok hanswer)]
  rfl

theorem selectPlan_eq_ok (h : s.selectPlan q params = .ok plan) :
    ∃ keys pushdown, q.plan keys s.naming params = .ok pushdown ∧
      plan.pushdown = pushdown ∧ plan.projection = .choose q.fields pushdown.hasResidual ∧
      plan.statement = .select (SelectPlan.selectItems s.naming plan.projection)
        (s.naming.normalize q.resource) pushdown.fragments pushdown.nativeLimit := by
  obtain ⟨resource, -, h⟩ := bind_eq_ok.mp h
  obtain ⟨keys, -, h⟩ := bind_eq_ok.mp h
  rw [mapError_eq_ok] at h
  obtain ⟨pushdown, hpushdown, h⟩ := bind_eq_ok.mp h
  rw [pure_eq_ok] at h
  subst h
  exact ⟨keys, pushdown, hpushdown, rfl, rfl, rfl⟩

theorem execute_adds (st : Statement) :
    (s.execute st).Adds fun _ added => added = [.sent st] :=
  fun _ => ⟨[.sent st], rfl, rfl⟩

theorem adds_nothing_after {β γ : Type} {x : Except QueryError β} {f : β → γ} :
    (do return f (← Action.ofExcept x) : Action ω γ).Adds fun _ added => added = [] := by
  cases x with
  | error e => exact (Action.adds_throw _).mono fun _ _ h => h.2
  | ok b => exact (Action.adds_pure (f b)).mono fun _ _ h => h.2

theorem fetchMaps_adds (s : Session ω) (q : Query) (params : List Value) :
    (s.fetchMaps q params).Adds fun r added =>
    ((∃ e, r = .error e) ∧ added = []) ∨
      ∃ plan, s.selectPlan q params = .ok plan ∧ added = [.sent plan.statement] := by
  simp only [fetchMaps, runSelect_eq, bind_assoc, pure_bind]
  cases hplan : s.selectPlan q params with
  | error e =>
    rw [Action.ofExcept_error, Action.throw_bind]
    exact (Action.adds_throw _).mono fun r added h => .inl ⟨⟨_, h.1⟩, h.2⟩
  | ok plan =>
    rw [Action.ofExcept_ok, pure_bind]
    refine ((execute_adds plan.statement).bind fun rows => adds_nothing_after).mono ?_
    rintro r added (⟨e, -, rfl⟩ | ⟨rows, first, rest, rfl, rfl, rfl⟩)
    · exact .inr ⟨plan, rfl, rfl⟩
    · exact .inr ⟨plan, rfl, rfl⟩

theorem fetchMaps_trace {r : Except Error (List RowMap)} {w w' : World ω}
    (h : (s.fetchMaps q params).outcome w = (r, w')) :
    ((∃ e, r = .error e) ∧ w'.trace = w.trace) ∨
      ∃ plan, s.selectPlan q params = .ok plan ∧ w'.trace = w.trace ++ [.sent plan.statement] := by
  obtain ⟨added, htrace, hadded⟩ := fetchMaps_adds s q params w
  rw [h] at htrace hadded
  obtain ⟨herror, rfl⟩ | ⟨plan, hplan, rfl⟩ := hadded
  · exact .inl ⟨herror, htrace.trans (List.append_nil _)⟩
  · exact .inr ⟨plan, hplan, htrace⟩

theorem fetchMaps_eq_ok {rows : List RowMap} {w w' : World ω}
    (h : (s.fetchMaps q params).outcome w = (.ok rows, w')) :
    ∃ plan, s.selectPlan q params = .ok plan ∧ w'.trace = w.trace ++ [.sent plan.statement] := by
  obtain ⟨⟨_, herror⟩, -⟩ | hsent := fetchMaps_trace h
  · cases herror
  · exact hsent

end Session

end WideColumn

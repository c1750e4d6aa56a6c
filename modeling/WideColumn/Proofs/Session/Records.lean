import WideColumn.Proofs.Record.Materialized
import WideColumn.Proofs.Session.Native

namespace WideColumn

open Outcome

variable {ρ : Type}

namespace ResultSet

theorem items_shaped {α : Type} (items : List α) : (shaped items).items = items := by
  match items with
  | [] => rfl
  | [_] => rfl
  | _ :: _ :: _ => rfl

end ResultSet

namespace Materializer

variable (m : Materializer) (table : ColumnTable ρ)

def ofRow (row : Row) : ρ :=
  (m.record table row.columns).1

theorem records_eq (rows : List Row) : (m.records table rows).1 = rows.map (m.ofRow table) := by
  induction rows with
  | nil => rfl
  | cons row rows ih => exact congrArg _ ih

end Materializer

namespace Session

open WideColumn.Action

variable {ω : Type} {s : Session ω} {model : RecordModel ρ} {q : Query} {params : List Value}
  {w w' : World ω} {found : ResultSet ρ} {rows : List Row}

theorem keepRecords_outcome {filter : List Predicate} (hf : Predicate.IsBound filter)
    (m : Materializer) (table : ColumnTable ρ) (rows : List Row) (w : World ω) :
    ∃ w', w'.models = w.models ∧ (s.keepRecords m table filter rows).outcome w =
      (.ok ((rows.filter fun row =>
        Predicate.accepts (.ofRecord s.naming table (m.ofRow table row)) filter).map
          (m.ofRow table)), w') := by
  induction rows generalizing w with
  | nil => exact ⟨w, rfl, rfl⟩
  | cons row rows ih =>
    have hreport : (Action.reporting (m.record table row.columns) : Action ω ρ).outcome w =
      (.ok (m.ofRow table row), World.recordEvents (m.record table row.columns).2 w) := rfl
    obtain ⟨w', hmodels, hrest⟩ := ih (World.recordEvents (m.record table row.columns).2 w)
    refine ⟨w', hmodels, ?_⟩
    rw [keepRecords, outcome_bind_of_ok hreport, Predicate.allHold_eq_accepts hf,
      Action.ofExcept_ok, pure_bind, outcome_bind_of_ok hrest, List.filter_cons]
    cases Predicate.accepts (.ofRecord s.naming table (m.ofRow table row)) filter <;> rfl

theorem select_outcome {plan : SelectPlan} {o : ω} (hplan : s.selectPlan q params = .ok plan)
    (hanswer : s.transport.execute plan.statement w.outside = (.ok rows, o))
    (h : (s.select model q params).outcome w = (.ok found, w')) :
    w'.models = (w.models.table model s.naming).2 ∧
      ∃ kept : List Row, kept.Sublist rows ∧ found.items = kept.map
        (Materializer.ofRow ⟨s.naming, w.types⟩ (w.models.table model s.naming).1) := by
  let table := (w.models.table model s.naming).1
  let m : Materializer := ⟨s.naming, w.types⟩
  let w₁ : World ω := { w with models := (w.models.table model s.naming).2 }
  let w₂ : World ω := { World.record (.sent plan.statement) w₁ with outside := o }
  have hbound := isBound_of_selectPlan hplan
  have htable : (s.table model).outcome w = (.ok table, w₁) := rfl
  have hrun : (s.runSelect q params).outcome w₁ = (.ok (plan, rows), w₂) :=
    runSelect_outcome hplan hanswer
  have hmaterializer : s.materializer.outcome w₂ = (.ok m, w₂) := rfl
  have hsublist {keep : Row → Bool} :
      (Window.apply q.start q.limit (rows.filter keep)).Sublist rows :=
    (Window.apply_sublist q.start q.limit _).trans List.filter_sublist
  rw [select, outcome_bind_of_ok htable, outcome_bind_of_ok hrun,
    outcome_bind_of_ok hmaterializer] at h
  cases hpost : s.postEvaluation with
  | rawRows =>
    simp only [hpost, keepMatching_eq hbound, Action.ofExcept_ok, pure_bind] at h
    obtain ⟨_, _, hrecords, hlast⟩ := outcome_bind_eq_ok.mp h
    cases hrecords
    obtain ⟨rfl, rfl⟩ := outcome_pure_eq_ok.mp hlast
    refine ⟨rfl, Window.apply q.start q.limit (rows.filter fun row => Predicate.accepts
      (.ofRow s.naming row) plan.pushdown.residual.filter), hsublist, ?_⟩
    rw [ResultSet.items_shaped, Materializer.records_eq]
  | materialized =>
    simp only [hpost] at h
    obtain ⟨_, _, hcheck, hafter⟩ := outcome_bind_eq_ok.mp h
    obtain ⟨-, rfl⟩ := outcome_ofExcept_eq_ok.mp hcheck
    obtain ⟨w₃, hmodels, hkeep⟩ := keepRecords_outcome hbound m table rows w₂
    rw [outcome_bind_of_ok hkeep] at hafter
    obtain ⟨rfl, rfl⟩ := outcome_pure_eq_ok.mp hafter
    refine ⟨hmodels, Window.apply q.start q.limit (rows.filter fun row => Predicate.accepts
      (.ofRecord s.naming table (m.ofRow table row)) plan.pushdown.residual.filter), hsublist, ?_⟩
    rw [ResultSet.items_shaped, Window.apply_map]

end Session

end WideColumn

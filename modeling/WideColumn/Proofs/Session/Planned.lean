import WideColumn.Proofs.Session.Fetch
import WideColumn.Session.Insert

namespace WideColumn.Session

open WideColumn.Action

variable {ω ρ α β : Type} {s : Session ω} {w w₀ : World ω}

inductive Plans (s : Session ω) (w : World ω) :
    {α : Type} → Action ω (ResultSet α) → Except Error Statement → World ω → Prop where
  | insert {ρ : Type} (model : RecordModel ρ) (record : ρ) :
      s.Plans w (s.insert model record)
        (Statement.buildInsert (w.models.table model s.naming).1.resource
          (.ofList (model.fieldValues record)) s.catalog s.naming)
        { w with models := (w.models.table model s.naming).2 }
  | insertValues (resource : String) (values : NamedValues) :
      s.Plans w (s.insertValues resource values)
        (do
          let resource ← (s.resourceName resource).mapError ToError.toError
          Statement.buildInsert resource values s.catalog s.naming)
        w
  | select {ρ : Type} (model : RecordModel ρ) (q : Query) (params : List Value) :
      s.Plans w (s.select model q params) ((s.selectPlan q params).map SelectPlan.statement)
        { w with models := (w.models.table model s.naming).2 }
  | selectRows (q : Query) (params : List Value) :
      s.Plans w (s.selectRows q params) ((s.selectPlan q params).map SelectPlan.statement) w

def sending (s : Session ω) (made : Except Error β) (statement : β → Statement)
    (after : β → List Row → Action ω α) : Action ω α := do
  let b ← Action.ofExcept made
  let rows ← s.execute (statement b)
  after b rows

def Unsent (e : Effect) : Prop :=
  e.statement? = none

section Sending

variable {made : Except Error β} {statement : β → Statement} {after : β → List Row → Action ω α}

theorem sending_error {e : Error} (h : made.map statement = .error e) :
    (s.sending made statement after).outcome w = (.error e, w) := by
  cases made with
  | error e' =>
    cases h
    rfl
  | ok b => contradiction

theorem sending_statements {st : Statement} (h : made.map statement = .ok st)
    (hafter : ∀ b rows, (after b rows).Emits Unsent) :
    ((s.sending made statement after).outcome w).2.statements = w.statements ++ [st] := by
  cases made with
  | error e => contradiction
  | ok b =>
    cases h
    have hsent {o : ω} :
        ({ World.record (.sent (statement b)) w with outside := o } : World ω).statements =
          w.statements ++ [statement b] := by
      rw [World.statements_outside, World.statements_record]
      rfl
    rw [sending, ofExcept_ok, pure_bind]
    rcases hreply : s.transport.execute (statement b) w.outside with ⟨e | rows, o⟩
    · rw [outcome_bind, execute_error hreply]
      exact hsent
    · rw [outcome_bind_of_ok (execute_ok hreply)]
      obtain ⟨added, htrace, hadded⟩ := hafter b rows
        { World.record (.sent (statement b)) w with outside := o }
      rw [World.statements_of_trace htrace, hsent, List.filterMap_eq_nil_iff.mpr hadded,
        List.append_nil]

end Sending

theorem materializer_emits : s.materializer.Emits Unsent :=
  fun w => ⟨[], (List.append_nil w.trace).symm, List.forall_mem_nil _⟩

theorem keepRecords_emits (m : Materializer) (table : ColumnTable ρ) (filter : List Predicate)
    (rows : List Row) : (s.keepRecords m table filter rows).Emits Unsent := by
  induction rows with
  | nil => exact emits_pure []
  | cons row rows ih =>
    refine (emits_reporting fun _ => rfl).bind fun record => ?_
    refine (emits_ofExcept _).bind fun keep => ?_
    exact ih.bind fun kept => emits_pure _

def answered (s : Session ω) : List Row → Action ω (ResultSet RowMap)
  | [] => return .empty
  | rows => return .mapRows (rows.map (RowMap.ofRow s.naming))

theorem answered_emits (rows : List Row) : (s.answered rows).Emits Unsent := by
  cases rows <;> exact emits_pure _

def selected (s : Session ω) (table : ColumnTable ρ) (q : Query) (plan : SelectPlan)
    (rows : List Row) : Action ω (ResultSet ρ) := do
  let m ← s.materializer
  match s.postEvaluation with
  | .rawRows =>
    let kept ← Action.ofExcept
      (keepMatching (FieldSource.ofRow s.naming) plan.pushdown.residual.filter rows)
    let records ← Action.reporting (m.records table (Window.apply q.start q.limit kept))
    return .shaped records
  | .materialized =>
    Action.ofExcept (Predicate.checkFieldsOf s.naming table plan.pushdown.residual.filter)
    let kept ← s.keepRecords m table plan.pushdown.residual.filter rows
    return .shaped (Window.apply q.start q.limit kept)

theorem selected_emits (table : ColumnTable ρ) (q : Query) (plan : SelectPlan) (rows : List Row) :
    (s.selected table q plan rows).Emits Unsent := by
  refine materializer_emits.bind fun m => ?_
  cases s.postEvaluation with
  | rawRows =>
    refine (emits_ofExcept _).bind fun kept => ?_
    exact (emits_reporting fun _ => rfl).bind fun records => emits_pure _
  | materialized =>
    refine (emits_ofExcept _).bind fun _ => ?_
    exact (keepRecords_emits m table _ rows).bind fun kept => emits_pure _

variable {call : Action ω (ResultSet α)} {planned : Except Error Statement}

theorem sending_of_plans (h : s.Plans w call planned w₀) :
    ∃ (β : Type) (made : Except Error β) (statement : β → Statement)
      (after : β → List Row → Action ω (ResultSet α)), made.map statement = planned ∧
      call.outcome w = (s.sending made statement after).outcome w₀ ∧
      ∀ b rows, (after b rows).Emits Unsent := by
  cases h with
  | insert model record =>
    exact ⟨_, _, id, fun _ _ => return .single record, congrFun Except.map_id _, rfl,
      fun _ _ => emits_pure _⟩
  | insertValues resource values =>
    refine ⟨_, _, id, fun _ => answered s, congrFun Except.map_id _, ?_,
      fun _ => answered_emits⟩
    have hinsert : s.insertValues resource values = (do
        let resource ← Action.ofExcept (s.resourceName resource)
        let statement ← Action.ofExcept (Statement.buildInsert resource values s.catalog s.naming)
        let rows ← s.execute statement
        s.answered rows) := rfl
    simp only [hinsert, sending, ofExcept_bind, ofExcept_mapError, bind_assoc, id]
  | select model q params =>
    refine ⟨_, _, SelectPlan.statement, s.selected (w.models.table model s.naming).1 q, rfl, ?_,
      selected_emits _ q⟩
    -- kept folded, so that both sides evaluate the rows by the one match
    have hselect : s.select model q params = (do
        let table ← s.table model
        let found ← s.runSelect q params
        s.selected table q found.1 found.2) := rfl
    have htable : (s.table model).outcome w = (.ok (w.models.table model s.naming).1,
        { w with models := (w.models.table model s.naming).2 }) := rfl
    rw [hselect, outcome_bind_of_ok htable, runSelect_eq]
    simp only [sending, bind_assoc, pure_bind]
  | selectRows q params =>
    refine ⟨_, _, SelectPlan.statement, fun plan rows => do
      let kept ← Action.ofExcept (s.keepMaps plan.pushdown.residual.filter rows)
      return .mapRows (s.applyProjection plan.projection (Window.apply q.start q.limit kept)),
      rfl, ?_, ?_⟩
    · simp only [selectRows, fetchMaps, runSelect_eq, sending, bind_assoc, pure_bind]
    · exact fun _ _ => (emits_ofExcept _).bind fun _ => emits_pure _

theorem Plans.failed {e : Error} (h : s.Plans w call (.error e) w₀) :
    call.outcome w = (.error e, w₀) := by
  obtain ⟨β, made, statement, after, hmade, hcall, -⟩ := sending_of_plans h
  rw [hcall, sending_error hmade]

theorem Plans.statements_start (h : s.Plans w call planned w₀) : w₀.statements = w.statements := by
  cases h <;> rfl

theorem Plans.outside_start (h : s.Plans w call planned w₀) : w₀.outside = w.outside := by
  cases h <;> rfl

theorem Plans.sent {st : Statement} (h : s.Plans w call (.ok st) w₀) :
    (call.outcome w).2.statements = w.statements ++ [st] := by
  obtain ⟨β, made, statement, after, hmade, hcall, hafter⟩ := sending_of_plans h
  rw [hcall, sending_statements hmade hafter, h.statements_start]

end WideColumn.Session

import WideColumn.Proofs.Session.Planned
import WideColumn.Proofs.Session.Tables

namespace WideColumn

theorem Statement.Reads.not_changes {table other : String} {st : Statement} (h : st.Reads table) :
    ¬ st.Changes other := by
  cases st with
  | select => exact not_false
  | insert | update | delete | literal => contradiction

namespace Session

variable {ω ρ α : Type} {s : Session ω} {change : Change} {subject : Subject α}
  {mutation : Mutation α} {params : List Value} {call : Action ω (ResultSet α)}
  {w w₀ w₁ w' : World ω} {sent : List Statement}

structure LeavesUnchanged (s : Session ω) (mutation : Mutation α) (params : List Value)
    (w w' : World ω) (sent : List Statement) : Prop where
  statements : w'.statements = w.statements ++ sent
  reads : sent = [] ∨ ∃ q plan, mutation.items = [] ∧ mutation.query = some q ∧
    s.selectPlan q params = .ok plan ∧ sent = [plan.statement]
  unchanged : ∀ st ∈ sent, ∀ table, ¬ st.Changes table
  skips : w'.skips = w.skips

theorem leavesUnchanged_of_trace (h : w'.trace = w.trace) :
    s.LeavesUnchanged mutation params w w' [] where
  statements := by rw [World.statements_eq, World.statements_eq, h, List.append_nil]
  reads := .inl rfl
  unchanged := List.forall_mem_nil _
  skips := by rw [World.skips, World.skips, h]

theorem leavesUnchanged_of_read {q : Query} {plan : SelectPlan} (hitems : mutation.items = [])
    (hquery : mutation.query = some q) (hplan : s.selectPlan q params = .ok plan)
    (h : w'.trace = w.trace ++ [.sent plan.statement]) :
    s.LeavesUnchanged mutation params w w' [plan.statement] where
  statements := World.statements_of_trace h
  reads := .inr ⟨q, plan, hitems, hquery, hplan, rfl⟩
  unchanged st hst table := by
    rw [List.mem_singleton.mp hst]
    exact (selectPlan_reads hplan).not_changes
  skips := (World.skips_of_trace h).trans (List.append_nil _)

theorem LeavesUnchanged.after (h : s.LeavesUnchanged mutation params w₁ w' sent)
    (hstatements : w₁.statements = w.statements) (hskips : w₁.skips = w.skips) :
    s.LeavesUnchanged mutation params w w' sent where
  statements := hstatements ▸ h.statements
  reads := h.reads
  unchanged := h.unchanged
  skips := h.skips.trans hskips

theorem runChange_leavesUnchanged {e : Error} (hscope : mutation.hasScope = true)
    (h : (s.runChange change subject mutation params).outcome w = (.error e, w')) :
    ∃ sent, s.LeavesUnchanged mutation params w w' sent := by
  obtain ⟨opened, w₁, ho, hrest⟩ := runChange_failed hscope h
  obtain ⟨hstatements, hskips⟩ := opening_quiet ho
  obtain htrace | ⟨q, plan, hitems, hquery, hplan, htrace⟩ := hrest
  · exact ⟨[], (leavesUnchanged_of_trace htrace).after hstatements hskips⟩
  · have hread := leavesUnchanged_of_read hitems hquery hplan htrace
    exact ⟨[plan.statement], hread.after hstatements hskips⟩

theorem requireScope_bind {f : Unit → Action ω (ResultSet α)} (h : mutation.hasScope = false) :
    (Action.ofExcept mutation.requireScope >>= f).outcome w =
      (.error SessionError.scopeMissing.toError, w) := by
  rw [Mutation.requireScope, h]
  rfl

theorem Enters.leavesUnchanged {e : Error} (h : s.Enters change params w mutation call subject w₀)
    (hcall : call.outcome w = (.error e, w')) :
    ∃ sent, s.LeavesUnchanged mutation params w w' sent := by
  cases hscope : mutation.hasScope with
  | true =>
    rw [h.outcome hscope] at hcall
    obtain ⟨sent, hsent⟩ := runChange_leavesUnchanged hscope hcall
    refine ⟨sent, hsent.after h.statements ?_⟩
    rw [World.skips, World.skips, h.trace]
  | false =>
    refine ⟨[], leavesUnchanged_of_trace ?_⟩
    cases h with
    | records model =>
      rw [changeRecords_eq, requireScope_bind hscope] at hcall
      cases hcall
      rfl
    | rows _ _ =>
      rw [changeRows_eq, requireScope_bind hscope] at hcall
      cases hcall
      rfl

theorem changeRows_leavesUnchanged {e : Error} {mutation : Mutation RowMap}
    (h : (s.changeRows change mutation params).outcome w = (.error e, w')) :
    ∃ sent, s.LeavesUnchanged mutation params w w' sent := by
  cases hsubject : s.untypedSubject mutation with
  | ok subject => exact (Enters.rows mutation hsubject).leavesUnchanged h
  | error e' =>
    -- without a resource the call fails like one without a scope
    refine ⟨[], leavesUnchanged_of_trace ?_⟩
    rw [changeRows_eq, hsubject] at h
    cases hscope : mutation.hasScope with
    | true =>
      rw [requireScope_eq_ok.mpr hscope] at h
      cases h
      rfl
    | false =>
      rw [requireScope_bind hscope] at h
      cases h
      rfl

/-- An update or delete that fails has changed no row, whatever the store answers. A call of one
statement that fails before it is made sends none. -/
theorem failedCall_changesNothing (s : Session ω) (params : List Value) (w : World ω) :
    (∀ (change : Change) {ρ : Type} (model : RecordModel ρ) (mutation : Mutation ρ) e w',
      (s.changeRecords change model mutation params).outcome w = (.error e, w') →
        ∃ sent, s.LeavesUnchanged mutation params w w' sent) ∧
    (∀ (change : Change) (mutation : Mutation RowMap) e w',
      (s.changeRows change mutation params).outcome w = (.error e, w') →
        ∃ sent, s.LeavesUnchanged mutation params w w' sent) ∧
    ∀ {α : Type} {call : Action ω (ResultSet α)} {planned : Except Error Statement}
      {w₀ : World ω}, s.Plans w call planned w₀ →
        (∀ e, planned = .error e → call.outcome w = (.error e, w₀) ∧
          w₀.statements = w.statements ∧ w₀.outside = w.outside) ∧
        ∀ st, planned = .ok st → (call.outcome w).2.statements = w.statements ++ [st] := by
  refine ⟨fun change ρ model mutation e w' h => (Enters.records model mutation).leavesUnchanged h,
    fun change mutation e w' h => changeRows_leavesUnchanged h, fun h => ⟨?_, ?_⟩⟩
  · rintro e rfl
    exact ⟨h.failed, h.statements_start, h.outside_start⟩
  · rintro st rfl
    exact h.sent

def refusingAll : Transport Nat where
  execute _ n := (.error (.rejected "full"), n + 1)

def refusedSession : Session Nat :=
  { userSession with transport := refusingAll }

theorem failedCall_changesNothing_refused : ∃ e w' sent e',
    (refusedSession.changeRows .delete { query := some { resource := "user" } } []).outcome
        { outside := 0 } = (.error e, w') ∧
      refusedSession.LeavesUnchanged (α := RowMap) { query := some { resource := "user" } } []
        { outside := 0 } w' sent ∧
      w'.statements = [.select none "user" [] none] ∧
      (refusedSession.selectRows { resource := "log" } []).outcome { outside := 0 } =
        (.error e', { outside := 0 }) := by
  have hfailed : ∃ e w', (refusedSession.changeRows .delete
      { query := some { resource := "user" } } []).outcome { outside := 0 } = (.error e, w') :=
    ⟨_, _, rfl⟩
  have hunplanned : ∃ e, (refusedSession.selectPlan { resource := "log" } []).map
      SelectPlan.statement = .error e := ⟨_, rfl⟩
  obtain ⟨e, w', h⟩ := hfailed
  obtain ⟨e', h'⟩ := hunplanned
  obtain ⟨-, hrows, hplans⟩ := failedCall_changesNothing refusedSession [] { outside := 0 }
  obtain ⟨sent, hsent⟩ := hrows .delete _ e w' h
  have hcall := ((hplans (.selectRows { resource := "log" } [])).1 e' h').1
  cases h
  exact ⟨_, _, sent, e', rfl, hsent, rfl, hcall⟩

end Session

end WideColumn

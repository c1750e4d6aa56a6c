import WideColumn.Proofs.Session.Change

namespace WideColumn

open Outcome

namespace Session

variable {ω ρ α : Type} {s : Session ω} {change : Change} {subject : Subject α}
  {mutation : Mutation α} {params : List Value}

def changeRecords (s : Session ω) (change : Change) (model : RecordModel ρ)
    (mutation : Mutation ρ) (params : List Value) : Action ω (ResultSet ρ) :=
  match change with
  | .update => s.update model mutation params
  | .delete => s.delete model mutation params

def changeRows (s : Session ω) (change : Change) (mutation : Mutation RowMap)
    (params : List Value) : Action ω (ResultSet RowMap) :=
  match change with
  | .update => s.updateRows mutation params
  | .delete => s.deleteRows mutation params

theorem hasScope_of_query {q : Query} (h : mutation.query = some q) :
    mutation.hasScope = true := by
  simp [Mutation.hasScope, h]

theorem query_of_hasScope (h : mutation.hasScope = true) (hitems : mutation.items = []) :
    ∃ q, mutation.query = some q := by
  simpa [Mutation.hasScope, hitems, Option.isSome_iff_exists] using h

theorem requireScope_eq_ok : mutation.requireScope = .ok () ↔ mutation.hasScope = true := by
  rw [Mutation.requireScope]
  split <;> simp [*]

theorem changeRecords_eq (model : RecordModel ρ) (mutation : Mutation ρ) :
    s.changeRecords change model mutation params = (do
      Action.ofExcept mutation.requireScope
      s.runChange change (← s.typedSubject model) mutation params) := by
  cases change <;> rfl

theorem changeRows_eq (mutation : Mutation RowMap) :
    s.changeRows change mutation params = (do
      Action.ofExcept mutation.requireScope
      s.runChange change (← Action.ofExcept (s.untypedSubject mutation)) mutation params) := by
  cases change <;> rfl

theorem typedSubject_outcome (model : RecordModel ρ) (w : World ω) :
    (s.typedSubject model).outcome w =
      (.ok (.typed (w.models.table model s.naming).1 ⟨s.naming, w.types⟩),
        { w with models := (w.models.table model s.naming).2 }) := rfl

inductive Enters (s : Session ω) (change : Change) (params : List Value) (w : World ω) :
    {α : Type} → Mutation α → Action ω (ResultSet α) → Subject α → World ω → Prop where
  | records {ρ : Type} (model : RecordModel ρ) (mutation : Mutation ρ) :
      s.Enters change params w mutation (s.changeRecords change model mutation params)
        (.typed (w.models.table model s.naming).1 ⟨s.naming, w.types⟩)
        { w with models := (w.models.table model s.naming).2 }
  | rows (mutation : Mutation RowMap) {subject : Subject RowMap}
      (h : s.untypedSubject mutation = .ok subject) :
      s.Enters change params w mutation (s.changeRows change mutation params) subject w

variable {w w₀ : World ω} {call : Action ω (ResultSet α)}

theorem Enters.outcome (h : s.Enters change params w mutation call subject w₀)
    (hscope : mutation.hasScope = true) :
    call.outcome w = (s.runChange change subject mutation params).outcome w₀ := by
  have hrequire := requireScope_eq_ok.mpr hscope
  cases h with
  | records model =>
    rw [changeRecords_eq, hrequire, Action.ofExcept_ok, pure_bind,
      Action.outcome_bind_of_ok (typedSubject_outcome model w)]
  | rows _ hsubject =>
    rw [changeRows_eq, hrequire, Action.ofExcept_ok, pure_bind, hsubject, Action.ofExcept_ok,
      pure_bind]

theorem Enters.hasScope {r : ResultSet α} {w' : World ω}
    (h : s.Enters change params w mutation call subject w₀) (hcall : call.outcome w = (.ok r, w')) :
    mutation.hasScope = true := by
  have hrequire {f : Unit → Action ω (ResultSet α)}
      (hrun : (Action.ofExcept mutation.requireScope >>= f).outcome w = (.ok r, w')) :
      mutation.hasScope = true := by
    obtain ⟨_, _, hscope, -⟩ := Action.outcome_bind_eq_ok.mp hrun
    exact requireScope_eq_ok.mp (Action.outcome_ofExcept_eq_ok.mp hscope).1
  cases h with
  | records model =>
    rw [changeRecords_eq] at hcall
    exact hrequire hcall
  | rows _ hsubject =>
    rw [changeRows_eq] at hcall
    exact hrequire hcall

theorem Enters.run {r : ResultSet α} {w' : World ω}
    (h : s.Enters change params w mutation call subject w₀) (hcall : call.outcome w = (.ok r, w')) :
    (s.runChange change subject mutation params).outcome w₀ = (.ok r, w') := by
  rw [← h.outcome (h.hasScope hcall), hcall]

theorem Enters.trace (h : s.Enters change params w mutation call subject w₀) :
    w₀.trace = w.trace := by
  cases h with
  | records model => rfl
  | rows _ _ => rfl

theorem Enters.statements (h : s.Enters change params w mutation call subject w₀) :
    w₀.statements = w.statements :=
  congrArg (List.filterMap Effect.statement?) h.trace

theorem Enters.opened {o : Opening} {w₁ : World ω}
    (h : s.Enters change params w mutation call subject w₀)
    (ho : (s.opening change subject.resource mutation.values).outcome w₀ = (.ok o, w₁)) :
    w₁.statements = w.statements ∧ w₁.skips = w.skips := by
  obtain ⟨hstatements, hskips⟩ := opening_quiet ho
  rw [hstatements, hskips, h.statements, World.skips, h.trace]
  exact ⟨rfl, rfl⟩

structure Quiet (subject : Subject α) : Prop where
  ofRow : ∀ map, ∀ event ∈ (subject.ofRow map).2, event.isSkip = false
  assign : ∀ item columns, ∀ event ∈ (subject.assign item columns).2, event.isSkip = false

structure ReportsFields (subject : Subject α) : Prop where
  ofRow : ∀ map, ∀ event ∈ (subject.ofRow map).2, event.isFieldUnset = true
  assign : ∀ item columns, ∀ event ∈ (subject.assign item columns).2, event.isFieldUnset = true

theorem ReportsFields.quiet (h : ReportsFields subject) : Quiet subject where
  ofRow map event hevent := Event.isSkip_of_isFieldUnset (h.ofRow map event hevent)
  assign item columns event hevent :=
    Event.isSkip_of_isFieldUnset (h.assign item columns event hevent)

theorem assignColumn_isFieldUnset (m : Materializer) (table : ColumnTable ρ) (record : ρ)
    (column : String × Value) :
    ∀ event ∈ (m.assignColumn table record column).2, event.isFieldUnset = true := by
  intro event hevent
  rw [Materializer.assignColumn] at hevent
  split at hevent
  · contradiction
  split at hevent
  · contradiction
  split at hevent
  · contradiction
  · rw [List.mem_singleton.mp hevent]
    rfl

theorem assign_isFieldUnset (m : Materializer) (table : ColumnTable ρ) (record : ρ)
    (columns : List (String × Value)) :
    ∀ event ∈ (m.assign table record columns).2, event.isFieldUnset = true := by
  induction columns generalizing record with
  | nil => exact fun _ h => absurd h List.not_mem_nil
  | cons column columns ih =>
    intro event hevent
    rcases List.mem_append.mp hevent with hevent | hevent
    · exact assignColumn_isFieldUnset m table record column event hevent
    · exact ih _ event hevent

theorem reportsFields_typed (table : ColumnTable ρ) (m : Materializer) :
    ReportsFields (.typed table m) where
  ofRow map := assign_isFieldUnset m table table.model.blank map.entries
  assign := assign_isFieldUnset m table

theorem reportsFields_untyped (resource : String) (naming : Naming) :
    ReportsFields (.untyped resource naming) where
  ofRow _ := List.forall_mem_nil _
  assign _ _ := List.forall_mem_nil _

theorem resourceName_eq_ok {resource name : String} :
    s.resourceName resource = .ok name ↔
      Text.trimBlank resource ≠ "" ∧ name = s.naming.normalize (Text.trimBlank resource) := by
  rw [resourceName]
  by_cases h : Text.trimBlank resource = ""
  · simp [h]
  · simp [h, eq_comm (a := name)]

theorem untypedSubject_eq_ok {mutation : Mutation RowMap} {subject : Subject RowMap} :
    s.untypedSubject mutation = .ok subject ↔
      ∃ resource, (mutation.resource <|> mutation.query.map Query.resource) = some resource ∧
        Text.trimBlank resource ≠ "" ∧
        subject = .untyped (s.naming.normalize (Text.trimBlank resource)) s.naming := by
  rw [untypedSubject]
  cases mutation.resource <|> mutation.query.map Query.resource with
  | none => simp [throw, throwThe, MonadExceptOf.throw]
  | some resource =>
    simp only [bind_eq_ok, pure_eq_ok, resourceName_eq_ok, Option.some.injEq]
    constructor
    · rintro ⟨_, ⟨hresource, rfl⟩, rfl⟩
      exact ⟨resource, rfl, hresource, rfl⟩
    · rintro ⟨_, rfl, hresource, rfl⟩
      exact ⟨_, ⟨hresource, rfl⟩, rfl⟩

theorem reportsFields_of_untypedSubject {mutation : Mutation RowMap} {subject : Subject RowMap}
    (h : s.untypedSubject mutation = .ok subject) : ReportsFields subject := by
  obtain ⟨resource, -, -, rfl⟩ := untypedSubject_eq_ok.mp h
  exact reportsFields_untyped _ _

theorem Enters.quiet (h : s.Enters change params w mutation call subject w₀) : Quiet subject := by
  cases h with
  | records model => exact (reportsFields_typed _ _).quiet
  | rows _ hsubject => exact (reportsFields_of_untypedSubject hsubject).quiet

end Session

end WideColumn

import WideColumn.Session.Basic

namespace WideColumn

namespace Event

def isSkip : Event → Bool
  | skipped .. => true
  | _ => false

def isFieldUnset : Event → Bool
  | fieldUnset .. => true
  | _ => false

theorem isSkip_of_isFieldUnset {event : Event} (h : event.isFieldUnset = true) :
    event.isSkip = false := by
  cases event <;> first | rfl | contradiction

end Event

namespace Effect

def statement? : Effect → Option Statement
  | sent statement => some statement
  | _ => none

def skip? : Effect → Option Event
  | logged event => if event.isSkip then some event else none
  | _ => none

@[simp] theorem statement?_sent (st : Statement) : (sent st).statement? = some st := rfl

@[simp] theorem statement?_logged (event : Event) : (logged event).statement? = none := rfl

@[simp] theorem skip?_sent (st : Statement) : (sent st).skip? = none := rfl

theorem skip?_logged {event : Event} (h : event.isSkip = true) :
    (logged event).skip? = some event := if_pos h

theorem skips_logged {events : List Event} (h : ∀ event ∈ events, event.isSkip = false) :
    (events.map logged).filterMap skip? = [] := by
  rw [List.filterMap_map, List.filterMap_eq_nil_iff]
  intro event hevent
  simp [skip?, h event hevent]

theorem statements_logged (events : List Event) :
    (events.map logged).filterMap statement? = [] := by
  simp [List.filterMap_map, Function.comp_def]

end Effect

namespace World

variable {ω : Type} {w w' : World ω} {added : List Effect}

def skips (w : World ω) : List Event :=
  w.trace.filterMap Effect.skip?

theorem statements_eq (w : World ω) : w.statements = w.trace.filterMap Effect.statement? := rfl

theorem statements_of_trace (h : w'.trace = w.trace ++ added) :
    w'.statements = w.statements ++ added.filterMap Effect.statement? := by
  rw [statements_eq, statements_eq, h, List.filterMap_append]

theorem skips_of_trace (h : w'.trace = w.trace ++ added) :
    w'.skips = w.skips ++ added.filterMap Effect.skip? := by
  rw [skips, skips, h, List.filterMap_append]

@[simp] theorem statements_outside (o : ω) :
    ({ w with outside := o } : World ω).statements = w.statements := rfl

@[simp] theorem skips_outside (o : ω) : ({ w with outside := o } : World ω).skips = w.skips := rfl

@[simp] theorem statements_record (e : Effect) :
    (record e w).statements = w.statements ++ [e].filterMap Effect.statement? :=
  statements_of_trace rfl

@[simp] theorem skips_record (e : Effect) :
    (record e w).skips = w.skips ++ [e].filterMap Effect.skip? :=
  skips_of_trace rfl

@[simp] theorem statements_recordEvents (events : List Event) :
    (recordEvents events w).statements = w.statements := by
  rw [statements_of_trace rfl, Effect.statements_logged, List.append_nil]

theorem skips_recordEvents {events : List Event} (h : ∀ event ∈ events, event.isSkip = false) :
    (recordEvents events w).skips = w.skips := by
  rw [skips_of_trace rfl, Effect.skips_logged h, List.append_nil]

end World

namespace Action

variable {ω α β ε : Type} [ToError ε]

def outcome (x : Action ω α) (w : World ω) : Except Error α × World ω :=
  x.run.run w

theorem outcome_bind (x : Action ω α) (f : α → Action ω β) (w : World ω) :
    (x >>= f).outcome w =
      match x.outcome w with
      | (.ok a, w₁) => (f a).outcome w₁
      | (.error e, w₁) => (.error e, w₁) := by
  simp only [outcome, ExceptT.run_bind, StateT.run_bind]
  change (match x.run.run w with | (r, w₁) => _) = _
  rcases x.run.run w with ⟨r | a, w₁⟩ <;> rfl

section Steps

variable {x : Action ω α} {f : α → Action ω β} {w w₁ w' : World ω}

theorem outcome_bind_of_ok {a : α} (h : x.outcome w = (.ok a, w₁)) :
    (x >>= f).outcome w = (f a).outcome w₁ := by
  rw [outcome_bind, h]

theorem outcome_bind_eq_ok {b : β} : (x >>= f).outcome w = (.ok b, w') ↔
    ∃ a w₁, x.outcome w = (.ok a, w₁) ∧ (f a).outcome w₁ = (.ok b, w') := by
  rw [outcome_bind]
  rcases hx : x.outcome w with ⟨r | a, w₁⟩
  · simp
  · constructor
    · intro h
      exact ⟨a, w₁, rfl, h⟩
    · rintro ⟨a', w₁', heq, h⟩
      cases heq
      exact h

end Steps

theorem ofExcept_ok (a : α) : (ofExcept (.ok a : Except ε α) : Action ω α) = pure a := rfl

theorem ofExcept_error (e : ε) :
    (ofExcept (.error e : Except ε α) : Action ω α) = throw (ToError.toError e) := rfl

theorem throw_bind (e : Error) (f : α → Action ω β) : (throw e : Action ω α) >>= f = throw e := rfl

theorem ofExcept_bind (r : Except Error α) (f : α → Except Error β) :
    (ofExcept (r >>= f) : Action ω β) = ofExcept r >>= fun a => ofExcept (f a) := by
  cases r <;> rfl

theorem ofExcept_mapError (r : Except ε α) :
    (ofExcept (r.mapError ToError.toError) : Action ω α) = ofExcept r := by
  cases r <;> rfl

theorem reporting_nil (a : α) : (reporting (a, []) : Action ω α) = pure a := by
  funext w
  simp only [reporting, World.recordEvents, List.map_nil, List.append_nil]
  rfl

theorem outcome_state (x : StateM (World ω) α) (f : α → β) (w : World ω) :
    (do return f (← x) : Action ω β).outcome w = (.ok (f (x.run w).1), (x.run w).2) := rfl

theorem outcome_pure_eq_ok {a b : α} {w w' : World ω} :
    (pure a : Action ω α).outcome w = (.ok b, w') ↔ b = a ∧ w' = w := by
  constructor
  · intro h
    cases h
    exact ⟨rfl, rfl⟩
  · rintro ⟨rfl, rfl⟩
    rfl

theorem outcome_ofExcept_eq_ok {r : Except ε α} {a : α} {w w' : World ω} :
    (ofExcept r : Action ω α).outcome w = (.ok a, w') ↔ r = .ok a ∧ w' = w := by
  cases r with
  | error e => exact iff_of_false nofun nofun
  | ok b =>
    constructor
    · intro h
      cases h
      exact ⟨rfl, rfl⟩
    · rintro ⟨⟨⟩, rfl⟩
      rfl

/-- Whatever the world, a run only appends to the trace, and what it appends is as `p` says. -/
def Adds (x : Action ω α) (p : Except Error α → List Effect → Prop) : Prop :=
  ∀ w, ∃ added, (x.outcome w).2.trace = w.trace ++ added ∧ p (x.outcome w).1 added

section Adding

variable {x : Action ω α} {f : α → Action ω β} {p : Except Error α → List Effect → Prop}
  {q : α → Except Error β → List Effect → Prop}

theorem Adds.mono {p' : Except Error α → List Effect → Prop} (h : x.Adds p)
    (hp : ∀ r added, p r added → p' r added) : x.Adds p' := by
  intro w
  obtain ⟨added, htrace, hadded⟩ := h w
  exact ⟨added, htrace, hp _ _ hadded⟩

theorem Adds.bind (hx : x.Adds p) (hf : ∀ a, (f a).Adds (q a)) :
    (x >>= f).Adds fun r added => (∃ e, r = .error e ∧ p (.error e) added) ∨
      ∃ a first rest, p (.ok a) first ∧ q a r rest ∧ added = first ++ rest := by
  intro w
  obtain ⟨first, htrace, hfirst⟩ := hx w
  rw [outcome_bind]
  rcases hr : x.outcome w with ⟨e | a, w₁⟩
  · rw [hr] at htrace hfirst
    exact ⟨first, htrace, .inl ⟨e, rfl, hfirst⟩⟩
  · rw [hr] at htrace hfirst
    obtain ⟨rest, hrest, hq⟩ := hf a w₁
    refine ⟨first ++ rest, ?_, .inr ⟨a, first, rest, hfirst, hq, rfl⟩⟩
    rw [hrest, htrace, List.append_assoc]

theorem adds_pure (a : α) : (pure a : Action ω α).Adds fun r added => r = .ok a ∧ added = [] :=
  fun w => ⟨[], (List.append_nil w.trace).symm, rfl, rfl⟩

theorem adds_throw (e : Error) :
    (throw e : Action ω α).Adds fun r added => r = .error e ∧ added = [] :=
  fun w => ⟨[], (List.append_nil w.trace).symm, rfl, rfl⟩

theorem adds_ofExcept (r : Except ε α) : (ofExcept r : Action ω α).Adds fun _ added => added = [] :=
  fun w => ⟨[], (List.append_nil w.trace).symm, rfl⟩

def Emits (x : Action ω α) (P : Effect → Prop) : Prop :=
  x.Adds fun _ added => ∀ e ∈ added, P e

variable {P : Effect → Prop}

theorem Emits.imp {Q : Effect → Prop} (h : x.Emits P) (hPQ : ∀ e, P e → Q e) : x.Emits Q :=
  Adds.mono h fun _ _ hadded e he => hPQ e (hadded e he)

def EmitsFrom (x : Action ω α) (w : World ω) (P : Effect → Prop) : Prop :=
  ∃ added, (x.outcome w).2.trace = w.trace ++ added ∧ ∀ e ∈ added, P e

theorem EmitsFrom.bind {w : World ω} (hx : x.EmitsFrom w P)
    (hf : ∀ a w₁, x.outcome w = (.ok a, w₁) → (f a).EmitsFrom w₁ P) :
    (x >>= f).EmitsFrom w P := by
  obtain ⟨first, htrace, hfirst⟩ := hx
  rw [EmitsFrom, outcome_bind]
  rcases hr : x.outcome w with ⟨e | a, w₁⟩
  · rw [hr] at htrace
    exact ⟨first, htrace, hfirst⟩
  · rw [hr] at htrace
    obtain ⟨rest, hrest, hadded⟩ := hf a w₁ hr
    refine ⟨first ++ rest, ?_, List.forall_mem_append.mpr ⟨hfirst, hadded⟩⟩
    rw [hrest, htrace, List.append_assoc]

theorem Emits.bind_of_outcome (hx : x.Emits P)
    (hf : ∀ a w w₁, x.outcome w = (.ok a, w₁) → (f a).Emits P) : (x >>= f).Emits P :=
  fun w => EmitsFrom.bind (hx w) fun a w₁ hr => hf a w w₁ hr w₁

theorem Emits.bind (hx : x.Emits P) (hf : ∀ a, (f a).Emits P) : (x >>= f).Emits P :=
  hx.bind_of_outcome fun a _ _ _ => hf a

theorem emits_pure (a : α) : (pure a : Action ω α).Emits P :=
  (adds_pure a).mono fun _ _ h => by simp [h.2]

theorem emits_throw (e : Error) : (throw e : Action ω α).Emits P :=
  (adds_throw e).mono fun _ _ h => by simp [h.2]

theorem emits_ofExcept (r : Except ε α) : (ofExcept r : Action ω α).Emits P :=
  (adds_ofExcept r).mono fun _ _ h => by simp [h]

theorem emits_reporting {result : α × List Event} (h : ∀ event, P (.logged event)) :
    (reporting result : Action ω α).Emits P :=
  fun _ => ⟨_, rfl, fun _ he => by
    obtain ⟨event, -, rfl⟩ := List.mem_map.mp he
    exact h event⟩

theorem Emits.quiet {w w' : World ω} {r : Except Error α} (hx : x.Emits P)
    (hP : ∀ e, P e → e.statement? = none ∧ e.skip? = none) (h : x.outcome w = (r, w')) :
    w'.statements = w.statements ∧ w'.skips = w.skips := by
  obtain ⟨added, htrace, hadded⟩ := hx w
  rw [h] at htrace
  constructor
  · rw [World.statements_of_trace htrace, List.append_right_eq_self, List.filterMap_eq_nil_iff]
    exact fun e he => (hP e (hadded e he)).1
  · rw [World.skips_of_trace htrace, List.append_right_eq_self, List.filterMap_eq_nil_iff]
    exact fun e he => (hP e (hadded e he)).2

end Adding

end Action

namespace Session

variable {ω : Type} {s : Session ω} {st : Statement} {w : World ω} {o : ω}

theorem execute_ok {rows : List Row} (h : s.transport.execute st w.outside = (.ok rows, o)) :
    (s.execute st).outcome w = (.ok rows, { World.record (.sent st) w with outside := o }) := by
  simp only [execute, Action.outcome, ExceptT.run, ExceptT.mk, StateT.run, h]
  rfl

theorem execute_error {e : TransportError}
    (h : s.transport.execute st w.outside = (.error e, o)) :
    (s.execute st).outcome w =
      (.error e.toError, { World.record (.sent st) w with outside := o }) := by
  simp only [execute, Action.outcome, ExceptT.run, ExceptT.mk, StateT.run, h]
  rfl

end Session

end WideColumn

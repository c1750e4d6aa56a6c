import WideColumn.Proofs.Layer.Begin

namespace WideColumn.Layer

open Outcome

universe u

inductive Step (ω : Type) : Type 1 where
  | begin
  | withNaming (naming : Naming)
  | withPostEvaluation (postEvaluation : PostEvaluation)
  | typed (session : Nat) {ρ : Type} (model : RecordModel ρ) (call : TypedCall ρ)
  | untyped (session : Nat) (call : UntypedCall)
  | outside (change : ω → ω)

structure State (ω : Type) where
  layer : Layer ω
  world : World ω
  sessions : List (Session ω) := []

namespace State

variable {ω : Type} {β : Type u}

def start (l : Layer ω) (outside : ω) : State ω where
  layer := l
  world := { outside }

def onSession (st : State ω) (i : Nat) (call : Session ω → World ω) : State ω :=
  match st.sessions[i]? with
  | some s => { st with world := call s }
  | none => st

def apply (st : State ω) : Step ω → State ω
  | .begin =>
    let (result, world) := st.layer.beginSession.outcome st.world
    { st with world, sessions := st.sessions ++ result.toOption.toList }
  | .withNaming naming => { st with layer := st.layer.withNaming naming }
  | .withPostEvaluation post => { st with layer := st.layer.withPostEvaluation post }
  | .typed i model call => st.onSession i fun s => ((call.perform s model).outcome st.world).2
  | .untyped i call => st.onSession i fun s => ((call.perform s).outcome st.world).2
  | .outside change => { st with world := { st.world with outside := change st.world.outside } }

def run (st : State ω) (steps : List (Step ω)) : State ω :=
  steps.foldl apply st

def observe (view : State ω → Step ω → Option β) (st : State ω) : List (Step ω) → List β
  | [] => []
  | step :: steps => (view st step).toList ++ (st.apply step).observe view steps

variable {st : State ω} {view : State ω → Step ω → Option β} {step : Step ω}
  {steps : List (Step ω)} {b : β} {before after : List β}

theorem run_cons : st.run (step :: steps) = (st.apply step).run steps := rfl

theorem observe_cons : st.observe view (step :: steps) =
    (view st step).toList ++ (st.apply step).observe view steps := rfl

theorem observe_eq_append_cons (h : st.observe view steps = before ++ b :: after) :
    ∃ first step rest, steps = first ++ step :: rest ∧ st.observe view first = before ∧
      view (st.run first) step = some b ∧
      ((st.run first).apply step).observe view rest = after := by
  induction steps generalizing st before with
  | nil => exact absurd h.symm (List.append_ne_nil_of_right_ne_nil _ (List.cons_ne_nil _ _))
  | cons step steps ih =>
    rw [observe_cons] at h
    cases hview : view st step with
    | none =>
      rw [hview] at h
      obtain ⟨first, step', rest, hsteps, hbefore, hstep, hafter⟩ := ih h
      refine ⟨step :: first, step', rest, congrArg (step :: ·) hsteps, ?_, hstep, hafter⟩
      rw [observe_cons, hview]
      exact hbefore
    | some seen =>
      rw [hview, Option.toList_some, List.singleton_append] at h
      cases before with
      | nil =>
        obtain ⟨rfl, hafter⟩ := List.cons.inj h
        exact ⟨[], step, steps, rfl, rfl, hview, hafter⟩
      | cons first' before =>
        obtain ⟨rfl, hrest⟩ := List.cons.inj h
        obtain ⟨first, step', rest, hsteps, hbefore, hstep, hafter⟩ := ih hrest
        refine ⟨step :: first, step', rest, congrArg (step :: ·) hsteps, ?_, hstep, hafter⟩
        rw [observe_cons, hview, hbefore]
        rfl

theorem mem_observe (h : b ∈ st.observe view steps) :
    ∃ first step rest, steps = first ++ step :: rest ∧ view (st.run first) step = some b := by
  obtain ⟨before, after, hobserved⟩ := List.append_of_mem h
  obtain ⟨first, step, rest, hsteps, -, hview, -⟩ := observe_eq_append_cons hobserved
  exact ⟨first, step, rest, hsteps, hview⟩

theorem run_keeps {P : State ω → Prop} (hstep : ∀ step ∈ steps, ∀ st, P st → P (st.apply step))
    (h : P st) : P (st.run steps) := by
  induction steps generalizing st with
  | nil => exact h
  | cons step steps ih =>
    have hfirst := hstep step List.mem_cons_self st h
    exact ih (fun step' hmem => hstep step' (List.mem_cons_of_mem step hmem)) hfirst

theorem onSession_layer (i : Nat) (call : Session ω → World ω) :
    (st.onSession i call).layer = st.layer := by
  rw [onSession]
  split <;> rfl

theorem onSession_sessions (i : Nat) (call : Session ω → World ω) :
    (st.onSession i call).sessions = st.sessions := by
  rw [onSession]
  split <;> rfl

theorem onSession_world {i : Nat} {call : Session ω → World ω} {P : World ω → Prop}
    (hcall : ∀ s, P (call s)) (h : P st.world) : P (st.onSession i call).world := by
  rw [onSession]
  split
  · exact hcall _
  · exact h

theorem apply_connector (st : State ω) (step : Step ω) :
    (st.apply step).layer.connector = st.layer.connector ∧
      (st.apply step).layer.config = st.layer.config := by
  cases step with
  | begin => exact ⟨rfl, rfl⟩
  | withNaming naming => exact ⟨rfl, rfl⟩
  | withPostEvaluation post => exact ⟨rfl, rfl⟩
  | typed i model call =>
    rw [apply, onSession_layer]
    exact ⟨rfl, rfl⟩
  | untyped i call =>
    rw [apply, onSession_layer]
    exact ⟨rfl, rfl⟩
  | outside change => exact ⟨rfl, rfl⟩

theorem run_connector (st : State ω) (steps : List (Step ω)) :
    (st.run steps).layer.connector = st.layer.connector ∧
      (st.run steps).layer.config = st.layer.config := by
  refine run_keeps (P := fun st' => st'.layer.connector = st.layer.connector ∧
    st'.layer.config = st.layer.config) (fun step _ st' h => ?_) ⟨rfl, rfl⟩
  obtain ⟨hconnector, hconfig⟩ := st'.apply_connector step
  exact ⟨hconnector.trans h.1, hconfig.trans h.2⟩

theorem apply_naming {naming : Naming} (hstep : ∀ naming, step ≠ .withNaming naming)
    (h : st.layer.naming = naming ∧ ∀ s ∈ st.sessions, s.naming = naming) :
    (st.apply step).layer.naming = naming ∧ ∀ s ∈ (st.apply step).sessions, s.naming = naming := by
  cases step with
  | begin =>
    refine ⟨h.1, List.forall_mem_append.mpr ⟨h.2, fun s hs => ?_⟩⟩
    have hresult := toOption_eq_some.mp (Option.mem_toList.mp hs)
    rw [(begins_outcome st.layer st.world).naming hresult, h.1]
  | withNaming naming => exact absurd rfl (hstep naming)
  | withPostEvaluation post => exact h
  | typed i model call =>
    rw [apply, onSession_layer, onSession_sessions]
    exact h
  | untyped i call =>
    rw [apply, onSession_layer, onSession_sessions]
    exact h
  | outside change => exact h

theorem run_naming (hsteps : ∀ step ∈ steps, ∀ naming, step ≠ .withNaming naming)
    (h : ∀ s ∈ st.sessions, s.naming = st.layer.naming) :
    ∀ s ∈ (st.run steps).sessions, s.naming = st.layer.naming := by
  have hkept := run_keeps (P := fun st' => st'.layer.naming = st.layer.naming ∧
    ∀ s ∈ st'.sessions, s.naming = st.layer.naming)
    (fun step hmem st' hst' => apply_naming (hsteps step hmem) hst') ⟨rfl, h⟩
  exact hkept.2

end State

end WideColumn.Layer

import WideColumn.Proofs.Layer.Runs

/-!
The shared connection. It is held from the call that makes it until one that finds it closed makes
another, and every session opened in between is over it.
-/

namespace WideColumn.Layer

open Outcome

variable {ω : Type}

structure Begun (ω : Type) where
  layer : Layer ω
  before : World ω
  result : Except Error (Session ω)
  after : World ω
  begins : layer.Begins before result after

namespace Begun

def effects (b : Begun ω) : List Effect :=
  b.after.trace.drop b.before.trace.length

def asks (b : Begun ω) : Bool :=
  b.effects.any fun
    | .connecting => true
    | _ => false

def connects (b : Begun ω) : Bool :=
  b.asks && b.result.isOk

/-- The connector is called if no open connection is held, and what it answers decides. -/
structure Lawful (b : Begun ω) : Prop where
  asks : b.asks = true ↔ b.before.LacksConnection
  spared : b.asks = false → b.result.isOk = true ∧ b.after = b.before
  answered : b.asks = true → ∃ reply, b.layer.connector b.layer.config b.before.outside =
    (reply, b.after.outside) ∧ b.result.isOk = reply.isOk
  refused : ∀ e, b.result = .error e → e.category = .access ∧ b.after.held = b.before.held
  opened : ∀ s, b.result = .ok s → b.after.held = some s.transport

variable {b : Begun ω} {t : Transport ω}

theorem effects_of_trace {added : List Effect} (h : b.after.trace = b.before.trace ++ added) :
    b.effects = added := by
  rw [effects, h, List.drop_left]

theorem effects_cases (b : Begun ω) : b.after.trace = b.before.trace ++ b.effects ∧
    ((b.effects = [] ∧ ¬ b.before.LacksConnection ∧ b.after = b.before ∧
        ∃ t, b.before.held = some t ∧ b.result = .ok (b.layer.sessionOver t)) ∨
      (b.effects = [.connecting] ∧ b.before.LacksConnection ∧ b.after.held = b.before.held ∧
        ∃ e, b.layer.connector b.layer.config b.before.outside = (.error e, b.after.outside) ∧
          b.result = .error e.toError) ∨
      (b.effects = [.connecting,
          .logged (.connected b.layer.config.keyspace b.before.held.isSome)] ∧
        b.before.LacksConnection ∧
        ∃ t, b.layer.connector b.layer.config b.before.outside = (.ok t, b.after.outside) ∧
          b.after.held = some t ∧ b.result = .ok (b.layer.sessionOver t))) := by
  obtain ⟨l, w, r, w', hbegins⟩ := b
  cases hbegins with
  | @reuses t hheld hopen =>
    have htrace : w.trace = w.trace ++ [] := (List.append_nil _).symm
    have heffects := effects_of_trace (b := ⟨l, w, _, w, .reuses hheld hopen⟩) htrace
    rw [heffects]
    refine ⟨htrace, .inl ⟨rfl, fun hlacks => ?_, rfl, t, hheld, rfl⟩⟩
    exact absurd ((hlacks t hheld).symm.trans hopen) nofun
  | @refused e o hlacks hreply =>
    have htrace : (World.record .connecting w).trace = w.trace ++ [.connecting] := rfl
    have heffects := effects_of_trace
      (b := ⟨l, w, _, { World.record .connecting w with outside := o }, .refused hlacks hreply⟩)
      htrace
    rw [heffects]
    exact ⟨htrace, .inr (.inl ⟨rfl, hlacks, rfl, e, hreply, rfl⟩)⟩
  | @connects t o hlacks hreply =>
    let logged := Effect.logged (.connected l.config.keyspace w.held.isSome)
    have htrace : (World.record logged (World.record .connecting w)).trace =
        w.trace ++ [.connecting, logged] := List.append_assoc ..
    have heffects := effects_of_trace (b := ⟨l, w, _,
      { World.record logged (World.record .connecting w) with outside := o, held := some t },
      .connects hlacks hreply⟩) htrace
    rw [heffects]
    exact ⟨htrace, .inr (.inr ⟨rfl, hlacks, t, hreply, rfl, rfl⟩)⟩

theorem lawful (b : Begun ω) : b.Lawful := by
  obtain ⟨-, ⟨heffects, hopen, hafter, t, hheld, hresult⟩ |
    ⟨heffects, hlacks, hheld, e, hreply, hresult⟩ |
    ⟨heffects, hlacks, t, hreply, hheld, hresult⟩⟩ := b.effects_cases
  · have hasks : b.asks = false := by rw [asks, heffects]; rfl
    exact {
      asks := iff_of_false (ne_true_of_eq_false hasks) hopen
      spared := fun _ => ⟨by rw [hresult]; rfl, hafter⟩
      answered := fun h => nomatch hasks.symm.trans h
      refused := fun e he => nomatch hresult.symm.trans he
      opened := fun s hs => by
        rw [hafter, hheld, ← Except.ok.inj (hresult.symm.trans hs)]
        rfl }
  · have hasks : b.asks = true := by rw [asks, heffects]; rfl
    exact {
      asks := iff_of_true hasks hlacks
      spared := fun h => nomatch hasks.symm.trans h
      answered := fun _ => ⟨_, hreply, by rw [hresult]; rfl⟩
      refused := fun e he => by
        rw [← Except.error.inj (hresult.symm.trans he)]
        exact ⟨rfl, hheld⟩
      opened := fun s hs => nomatch hresult.symm.trans hs }
  · have hasks : b.asks = true := by rw [asks, heffects]; rfl
    exact {
      asks := iff_of_true hasks hlacks
      spared := fun h => nomatch hasks.symm.trans h
      answered := fun _ => ⟨_, hreply, by rw [hresult]; rfl⟩
      refused := fun e he => nomatch hresult.symm.trans he
      opened := fun s hs => by
        rw [hheld, ← Except.ok.inj (hresult.symm.trans hs)]
        rfl }

theorem effects_eq (b : Begun ω) : b.effects =
    if b.asks then .connecting :: (if b.result.isOk then
      [.logged (.connected b.layer.config.keyspace b.before.held.isSome)] else []) else [] := by
  obtain ⟨-, ⟨heffects, -, -, t, -, hresult⟩ | ⟨heffects, -, -, e, -, hresult⟩ |
    ⟨heffects, -, t, -, -, hresult⟩⟩ := b.effects_cases <;> rw [asks, heffects, hresult] <;> rfl

theorem connections (b : Begun ω) :
    b.after.connections = b.before.connections ++ b.effects := by
  have hall : ∀ e ∈ b.effects, e.isConnection = true := by
    rw [b.effects_eq]
    cases b.asks <;> cases b.result.isOk <;> simp [Effect.isConnection, Event.isConnected]
  rw [World.connections_of_trace b.effects_cases.1, List.filter_eq_self.mpr hall]

theorem reuses (hheld : b.before.held = some t)
    (hopen : t.isClosed b.before.outside = false) : b.after = b.before := by
  cases hasks : b.asks with
  | false => exact (b.lawful.spared hasks).2
  | true => exact absurd ((b.lawful.asks.mp hasks t hheld).symm.trans hopen) nofun

theorem isSome_held (b : Begun ω) :
    b.after.held.isSome = (b.before.held.isSome || b.connects) := by
  rw [connects]
  cases hasks : b.asks with
  | false => rw [(b.lawful.spared hasks).2, Bool.false_and, Bool.or_false]
  | true =>
    cases hok : b.result.isOk with
    | true =>
      obtain ⟨s, hs⟩ := exists_ok_of_isOk hok
      rw [b.lawful.opened s hs, Bool.and_self, Bool.or_true]
      rfl
    | false =>
      obtain ⟨e, he⟩ := exists_error_of_isOk hok
      rw [(b.lawful.refused e he).2, Bool.and_false, Bool.or_false]

end Begun

namespace State

variable {st : State ω} {step : Step ω} {steps : List (Step ω)} {b : Begun ω}

def begun? (st : State ω) : Step ω → Option (Begun ω)
  | .begin => some ⟨st.layer, st.world, _, _, begins_outcome st.layer st.world⟩
  | _ => none

def begins (st : State ω) (steps : List (Step ω)) : List (Begun ω) :=
  st.observe begun? steps

theorem of_begun?_eq_some (h : st.begun? step = some b) : b.layer = st.layer ∧
    b.before = st.world ∧ b.after = (st.apply step).world := by
  cases step with
  | begin =>
    obtain rfl := Option.some.inj h
    exact ⟨rfl, rfl, rfl⟩
  | _ => cases h

theorem of_begun?_eq_none (h : st.begun? step = none) :
    (st.apply step).world.held = st.world.held ∧
      (st.apply step).world.connections = st.world.connections := by
  cases step with
  | begin => cases h
  | withNaming naming => exact ⟨rfl, rfl⟩
  | withPostEvaluation post => exact ⟨rfl, rfl⟩
  | typed i model call =>
    refine onSession_world (P := fun w => w.held = st.world.held ∧
      w.connections = st.world.connections) (fun s => ?_) ⟨rfl, rfl⟩
    exact (call.perform_frame s model st.world).2
  | untyped i call =>
    refine onSession_world (P := fun w => w.held = st.world.held ∧
      w.connections = st.world.connections) (fun s => ?_) ⟨rfl, rfl⟩
    have hsteady := call.perform_steady s st.world
    exact ⟨hsteady.held, hsteady.connections⟩
  | outside change => exact ⟨rfl, rfl⟩

theorem run_held {P : Option (Transport ω) → Prop} (h : P st.world.held)
    (hbegins : ∀ b ∈ st.begins steps, P b.before.held → P b.after.held) :
    P (st.run steps).world.held := by
  induction steps generalizing st with
  | nil => exact h
  | cons step steps ih =>
    rw [begins, observe_cons] at hbegins
    cases hview : st.begun? step with
    | none =>
      rw [hview] at hbegins
      exact ih ((of_begun?_eq_none hview).1 ▸ h) hbegins
    | some b =>
      rw [hview, Option.toList_some, List.singleton_append, List.forall_mem_cons] at hbegins
      obtain ⟨-, hbefore, hafter⟩ := of_begun?_eq_some hview
      have hstep : P (st.apply step).world.held := hafter ▸ hbegins.1 (hbefore ▸ h)
      exact ih hstep hbegins.2

theorem run_isSome_held : (st.run steps).world.held.isSome =
    (st.world.held.isSome || (st.begins steps).any Begun.connects) := by
  induction steps generalizing st with
  | nil => exact (Bool.or_false _).symm
  | cons step steps ih =>
    rw [run_cons, ih, begins, begins, observe_cons]
    cases hview : st.begun? step with
    | none =>
      rw [(of_begun?_eq_none hview).1]
      rfl
    | some b =>
      obtain ⟨-, hbefore, hafter⟩ := of_begun?_eq_some hview
      rw [← hafter, ← hbefore, b.isSome_held, Option.toList_some, List.singleton_append,
        List.any_cons, Bool.or_assoc]

theorem run_connections : (st.run steps).world.connections =
    st.world.connections ++ (st.begins steps).flatMap Begun.effects := by
  induction steps generalizing st with
  | nil => exact (List.append_nil _).symm
  | cons step steps ih =>
    rw [run_cons, ih, begins, begins, observe_cons]
    cases hview : st.begun? step with
    | none =>
      rw [(of_begun?_eq_none hview).2]
      rfl
    | some b =>
      obtain ⟨-, hbefore, hafter⟩ := of_begun?_eq_some hview
      rw [← hafter, ← hbefore, b.connections, Option.toList_some, List.singleton_append,
        List.flatMap_cons, List.append_assoc]

theorem of_begins_eq {before after : List (Begun ω)}
    (h : st.begins steps = before ++ b :: after) :
    ∃ first step rest, st.begins first = before ∧ (st.run first).begun? step = some b ∧
      ((st.run first).apply step).begins rest = after := by
  obtain ⟨first, step, rest, -, hbefore, hstep, hafter⟩ := observe_eq_append_cons h
  exact ⟨first, step, rest, hbefore, hstep, hafter⟩

end State

/-- The life of the connections of a run, told by the sessions asked for. -/
structure LifeCycle (l : Layer ω) (begins : List (Begun ω)) (last : World ω) : Prop where
  lawful : ∀ b ∈ begins, b.Lawful ∧ b.layer.connector = l.connector ∧ b.layer.config = l.config
  /-- A failure leaves all as it was, so the next call tries again unless the connection that was
  held has opened by itself. -/
  again : ∀ before b b' after, begins = before ++ b :: b' :: after →
    b'.before.held = b.after.held ∧
      (b.result.isOk = false → (∀ t, b.before.held = some t →
        t.isClosed b'.before.outside = true) → b'.asks = true)
  /-- Sessions are over one connection unless it was found closed in between. -/
  shared : ∀ before b between b' after s s', begins = before ++ b :: (between ++ b' :: after) →
    b.result = .ok s → b'.result = .ok s' →
    (∀ c ∈ between ++ [b'], s.transport.isClosed c.before.outside = false) →
    s'.transport = s.transport
  held : ∀ before b after, begins = before ++ b :: after →
    b.before.held.isSome = before.any Begun.connects
  effects : ∀ before b after, begins = before ++ b :: after → b.effects =
    if b.asks then .connecting :: (if b.result.isOk then
      [.logged (.connected l.config.keyspace (before.any Begun.connects))] else []) else []
  connections : last.connections = begins.flatMap Begun.effects

section LifeCycle

open State

variable {st : State ω} {steps : List (Step ω)} {b b' : Begun ω}
  {before between after : List (Begun ω)}

theorem begun_isSome_held (h : st.begins steps = before ++ b :: after) :
    b.before.held.isSome = (st.world.held.isSome || before.any Begun.connects) := by
  obtain ⟨first, step, -, hbefore, hview, -⟩ := of_begins_eq h
  rw [(of_begun?_eq_some hview).2.1, run_isSome_held, hbefore]

theorem begun_again (h : st.begins steps = before ++ b :: b' :: after) :
    b'.before.held = b.after.held ∧
      (b.result.isOk = false → (∀ t, b.before.held = some t →
        t.isClosed b'.before.outside = true) → b'.asks = true) := by
  obtain ⟨first, step, rest, -, hstep, hrest⟩ := of_begins_eq h
  obtain ⟨-, -, hafter⟩ := of_begun?_eq_some hstep
  obtain ⟨first', step', -, hnone, hstep', -⟩ :=
    of_begins_eq (hrest.trans (List.nil_append _).symm)
  obtain ⟨-, hbefore', -⟩ := of_begun?_eq_some hstep'
  have hheld : b'.before.held = b.after.held := by
    rw [hbefore', hafter]
    refine run_held (P := (· = _)) rfl fun c hc => ?_
    rw [hnone] at hc
    contradiction
  refine ⟨hheld, fun hfailed hclosed => b'.lawful.asks.mpr fun t ht => ?_⟩
  obtain ⟨e, he⟩ := exists_error_of_isOk hfailed
  apply hclosed t
  rw [← (b.lawful.refused e he).2, ← hheld, ht]

theorem begun_shared {s s' : Session ω}
    (h : st.begins steps = before ++ b :: (between ++ b' :: after)) (hs : b.result = .ok s)
    (hs' : b'.result = .ok s')
    (hopen : ∀ c ∈ between ++ [b'], s.transport.isClosed c.before.outside = false) :
    s'.transport = s.transport := by
  obtain ⟨first, step, rest, -, hstep, hrest⟩ := of_begins_eq h
  obtain ⟨-, -, hafter⟩ := of_begun?_eq_some hstep
  obtain ⟨first', step', -, hbetween, hstep', -⟩ := of_begins_eq hrest
  obtain ⟨-, hbefore', -⟩ := of_begun?_eq_some hstep'
  have hreuses : ∀ c ∈ between ++ [b'], c.before.held = some s.transport →
      c.after.held = some s.transport := by
    intro c hc hheld
    rw [c.reuses hheld (hopen c hc), hheld]
  have hheld : b'.before.held = some s.transport := by
    rw [hbefore']
    refine run_held (P := (· = some s.transport)) ?_ fun c hc => ?_
    · rw [← hafter, b.lawful.opened s hs]
    · rw [hbetween] at hc
      exact hreuses c (List.mem_append_left _ hc)
  have hafter' := hreuses b' (List.mem_append_right _ List.mem_cons_self) hheld
  exact Option.some.inj ((b'.lawful.opened s' hs').symm.trans hafter')

theorem run_lifeCycle (l : Layer ω) (outside : ω) (steps : List (Step ω)) :
    l.LifeCycle ((State.start l outside).begins steps)
      ((State.start l outside).run steps).world where
  lawful b hb := by
    obtain ⟨first, step, -, -, hview⟩ := mem_observe hb
    obtain ⟨hlayer, -, -⟩ := of_begun?_eq_some hview
    rw [hlayer]
    exact ⟨b.lawful, run_connector _ first⟩
  again before b b' after h := begun_again h
  shared before b between b' after s s' h hs hs' hopen := begun_shared h hs hs' hopen
  held before b after h := begun_isSome_held h
  effects before b after h := by
    obtain ⟨first, step, -, -, hview, -⟩ := of_begins_eq h
    obtain ⟨hlayer, -, -⟩ := of_begun?_eq_some hview
    have hheld : b.before.held.isSome = before.any Begun.connects := begun_isSome_held h
    have hconfig : b.layer.config = l.config := by
      rw [hlayer]
      exact (run_connector _ first).2
    rw [b.effects_eq, hheld, hconfig]
  connections := run_connections

end LifeCycle

def flakyLayer : Layer Nat where
  config := { keyspace := "app" }
  connector _ time :=
    if time = 0 then (.error (.connect "unreachable"), 1)
    else (.ok { execute := fun _ time => (.ok [], time), isClosed := (· != time) }, time)
  catalog := (MemoryCatalog.ofTables []).toCatalog

def flakySteps : List (Step Nat) :=
  [.begin, .begin, .begin, .outside Nat.succ, .begin, .begin]

theorem run_lifeCycle_flaky : ∃ b b' after last,
    (State.start flakyLayer 0).begins flakySteps = b :: b' :: after ∧
      b.result.isOk = false ∧ b'.asks = true ∧ after.map Begun.asks = [false, true, false] ∧
      last = ((State.start flakyLayer 0).run flakySteps).world ∧
      last.connections = [.connecting, .connecting, .logged (.connected "app" false),
        .connecting, .logged (.connected "app" true)] := by
  have h := run_lifeCycle flakyLayer 0 flakySteps
  refine ⟨_, _, _, _, rfl, rfl, ?_, rfl, rfl, h.connections⟩
  exact (h.again [] _ _ _ rfl).2 rfl nofun

end WideColumn.Layer

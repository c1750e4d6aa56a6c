import WideColumn.Layer
import WideColumn.Proofs.Session.Steady

namespace WideColumn

variable {ω : Type}

def World.LacksConnection (w : World ω) : Prop :=
  ∀ t, w.held = some t → t.isClosed w.outside = true

namespace Layer

def sessionOver (l : Layer ω) (t : Transport ω) : Session ω where
  transport := t
  catalog := l.catalog
  naming := l.naming
  postEvaluation := l.postEvaluation

inductive Begins (l : Layer ω) (w : World ω) : Except Error (Session ω) → World ω → Prop where
  | reuses {t : Transport ω} (hheld : w.held = some t) (hopen : t.isClosed w.outside = false) :
      l.Begins w (.ok (l.sessionOver t)) w
  | refused {e : TransportError} {o : ω} (hlacks : w.LacksConnection)
      (hreply : l.connector l.config w.outside = (.error e, o)) :
      l.Begins w (.error e.toError) { World.record .connecting w with outside := o }
  | connects {t : Transport ω} {o : ω} (hlacks : w.LacksConnection)
      (hreply : l.connector l.config w.outside = (.ok t, o)) :
      l.Begins w (.ok (l.sessionOver t))
        { World.record (.logged (.connected l.config.keyspace w.held.isSome))
            (World.record .connecting w) with outside := o, held := some t }

variable {l : Layer ω} {w w' : World ω} {r : Except Error (Session ω)}

theorem connect_error {e : TransportError} {o : ω}
    (h : l.connector l.config w.outside = (.error e, o)) :
    l.connect.outcome w = (.error e.toError, { World.record .connecting w with outside := o }) := by
  simp only [connect, Action.outcome, ExceptT.run, ExceptT.mk, StateT.run, h]

theorem connect_ok {t : Transport ω} {o : ω} (h : l.connector l.config w.outside = (.ok t, o)) :
    l.connect.outcome w = (.ok t,
      { World.record (.logged (.connected l.config.keyspace w.held.isSome))
          (World.record .connecting w) with outside := o, held := some t }) := by
  simp only [connect, Action.outcome, ExceptT.run, ExceptT.mk, StateT.run, h]

theorem transport_outcome (l : Layer ω) (w : World ω) : l.transport.outcome w =
    (match w.held with
      | some t => if t.isClosed w.outside then l.connect else return t
      | none => l.connect : Action ω (Transport ω)).outcome w := rfl

theorem transport_of_lacksConnection (h : w.LacksConnection) :
    l.transport.outcome w = l.connect.outcome w := by
  rw [transport_outcome]
  cases hheld : w.held with
  | none => rfl
  | some t =>
    dsimp only
    rw [if_pos (h t hheld)]

theorem transport_of_open {t : Transport ω} (hheld : w.held = some t)
    (hopen : t.isClosed w.outside = false) : l.transport.outcome w = (.ok t, w) := by
  rw [transport_outcome, hheld]
  dsimp only
  rw [if_neg (ne_true_of_eq_false hopen)]
  rfl

theorem begins_outcome (l : Layer ω) (w : World ω) :
    l.Begins w (l.beginSession.outcome w).1 (l.beginSession.outcome w).2 := by
  have hbegin : l.beginSession = do return l.sessionOver (← l.transport) := rfl
  rw [hbegin]
  by_cases hlacks : w.LacksConnection
  · have htransport := transport_of_lacksConnection (l := l) hlacks
    rcases hreply : l.connector l.config w.outside with ⟨e | t, o⟩
    · rw [Action.outcome_bind, htransport, connect_error hreply]
      exact .refused hlacks hreply
    · rw [Action.outcome_bind, htransport, connect_ok hreply]
      exact .connects hlacks hreply
  · obtain ⟨t, hheld, hopen⟩ : ∃ t, w.held = some t ∧ t.isClosed w.outside = false := by
      simpa [World.LacksConnection] using hlacks
    rw [Action.outcome_bind_of_ok (transport_of_open hheld hopen)]
    exact .reuses hheld hopen

theorem Begins.models (h : l.Begins w r w') : w'.models = w.models := by
  cases h <;> rfl

theorem Begins.naming (h : l.Begins w r w') {s : Session ω} (hs : r = .ok s) :
    s.naming = l.naming := by
  cases h <;> cases hs <;> rfl

end Layer

end WideColumn

import WideColumn.Proofs.Session.Change

namespace WideColumn

variable {ω α β : Type}

/-- The attempts on a batch, one after the other, from one state of the store to another: the
statements sent, the elements accepted, and those skipped with the reason. -/
inductive Attempts (t : Transport ω) (statement : α → Except Error Statement) :
    List α → ω → List Statement → List α → List (α × Error) → ω → Prop where
  | done {o : ω} : Attempts t statement [] o [] [] [] o
  | unsent {x : α} {xs : List α} {o o' : ω} {sent : List Statement} {accepted : List α}
      {skipped : List (α × Error)} {e : Error} (h : statement x = .error e)
      (rest : Attempts t statement xs o sent accepted skipped o') :
      Attempts t statement (x :: xs) o sent accepted ((x, e) :: skipped) o'
  | refused {x : α} {xs : List α} {o o₁ o' : ω} {sent : List Statement} {accepted : List α}
      {skipped : List (α × Error)} {st : Statement} {e : TransportError}
      (h : statement x = .ok st) (reply : t.execute st o = (.error e, o₁))
      (rest : Attempts t statement xs o₁ sent accepted skipped o') :
      Attempts t statement (x :: xs) o (st :: sent) accepted ((x, e.toError) :: skipped) o'
  | accepted {x : α} {xs : List α} {o o₁ o' : ω} {sent : List Statement} {accepted : List α}
      {skipped : List (α × Error)} {st : Statement} {rows : List Row}
      (h : statement x = .ok st) (reply : t.execute st o = (.ok rows, o₁))
      (rest : Attempts t statement xs o₁ sent accepted skipped o') :
      Attempts t statement (x :: xs) o (st :: sent) (x :: accepted) skipped o'

namespace Attempts

variable {t : Transport ω} {statement : α → Except Error Statement} {batch accepted : List α}
  {o o' : ω} {sent : List Statement} {skipped : List (α × Error)}

theorem sent_eq (h : Attempts t statement batch o sent accepted skipped o') :
    sent = batch.filterMap fun x => (statement x).toOption := by
  induction h with
  | done => rfl
  | unsent h _ ih => rw [List.filterMap_cons, h, ih]; rfl
  | refused h _ _ ih => rw [List.filterMap_cons, h, ih]; rfl
  | accepted h _ _ ih => rw [List.filterMap_cons, h, ih]; rfl

theorem partition (h : Attempts t statement batch o sent accepted skipped o') :
    (accepted ++ skipped.map Prod.fst).Perm batch := by
  induction h with
  | done => exact .nil
  | unsent _ _ ih => exact List.perm_middle.trans (ih.cons _)
  | refused _ _ _ ih => exact List.perm_middle.trans (ih.cons _)
  | accepted _ _ _ ih => exact ih.cons _

end Attempts

namespace Session

variable {s : Session ω} {w : World ω} {skip : Error → Event}

theorem attempt_error {e : Error} {result : α × List Event} :
    (s.attempt (.error e) result).outcome w = (.error e, w) := rfl

theorem attempt_refused {st : Statement} {result : α × List Event} {e : TransportError} {o : ω}
    (h : s.transport.execute st w.outside = (.error e, o)) :
    (s.attempt (.ok st) result).outcome w =
      (.error e.toError, { World.record (.sent st) w with outside := o }) := by
  rw [attempt, Action.ofExcept_ok, pure_bind, Action.outcome_bind, execute_error h]

theorem attempt_accepted {st : Statement} {result : α × List Event} {rows : List Row} {o : ω}
    (h : s.transport.execute st w.outside = (.ok rows, o)) :
    (s.attempt (.ok st) result).outcome w = (.ok result.1, World.recordEvents result.2
      { World.record (.sent st) w with outside := o }) := by
  rw [attempt, Action.ofExcept_ok, pure_bind, Action.outcome_bind, execute_ok h]
  rfl

theorem bestEffort_cons (attempt : α → Action ω β) (x : α) (xs : List α) (w : World ω) :
    (bestEffort skip attempt (x :: xs)).run w =
      match (attempt x).outcome w with
      | (.ok y, w₁) =>
        (y :: ((bestEffort skip attempt xs).run w₁).1, ((bestEffort skip attempt xs).run w₁).2)
      | (.error e, w₁) =>
        (bestEffort skip attempt xs).run (World.record (.logged (skip e)) w₁) := by
  rw [bestEffort, StateT.run_bind]
  rcases h : (attempt x).outcome w with ⟨e | y, w₁⟩
  · rw [Action.outcome] at h
    rw [h]
    rfl
  · rw [Action.outcome] at h
    rw [h]
    rfl

structure Settles (s : Session ω) (statement : α → Except Error Statement) (skip : Error → Event)
    (batch : List α) (w w' : World ω) (accepted : List α) (skipped : List (α × Error)) : Prop where
  attempts : Attempts s.transport statement batch w.outside
    (batch.filterMap fun x => (statement x).toOption) accepted skipped w'.outside
  partition : (accepted ++ skipped.map Prod.fst).Perm batch
  statements : w'.statements = w.statements ++ batch.filterMap fun x => (statement x).toOption
  skips : w'.skips = w.skips ++ skipped.map fun x => skip x.2

theorem bestEffort_attempts (statement : α → Except Error Statement)
    (result : α → β × List Event) (batch : List α)
    (hskip : ∀ e, (skip e).isSkip = true)
    (hresult : ∀ x, ∀ event ∈ (result x).2, event.isSkip = false) (w : World ω) :
    ∃ sent accepted skipped w',
      (bestEffort skip (fun x => s.attempt (statement x) (result x)) batch).run w =
        (accepted.map fun x => (result x).1, w') ∧
      Attempts s.transport statement batch w.outside sent accepted skipped w'.outside ∧
      w'.statements = w.statements ++ sent ∧
      w'.skips = w.skips ++ skipped.map fun e => skip e.2 := by
  -- the store may answer by all that was sent before, so the rest starts from any world
  induction batch generalizing w with
  | nil => exact ⟨[], [], [], w, rfl, .done, (List.append_nil _).symm, (List.append_nil _).symm⟩
  | cons x xs ih =>
    rw [bestEffort_cons]
    cases h : statement x with
    | error e =>
      obtain ⟨sent, accepted, skipped, w', hrun, hattempts, hstatements, hskips⟩ :=
        ih (World.record (.logged (skip e)) w)
      refine ⟨sent, accepted, (x, e) :: skipped, w', ?_, .unsent h hattempts, ?_, ?_⟩
      · rw [attempt_error]
        exact hrun
      · rw [hstatements]
        simp
      · rw [hskips]
        simp [Effect.skip?_logged (hskip e)]
    | ok st =>
      rcases hreply : s.transport.execute st w.outside with ⟨e | rows, o⟩
      · rw [attempt_refused hreply]
        obtain ⟨sent, accepted, skipped, w', hrun, hattempts, hstatements, hskips⟩ :=
          ih (World.record (.logged (skip e.toError))
            { World.record (.sent st) w with outside := o })
        refine ⟨st :: sent, accepted, (x, e.toError) :: skipped, w', hrun,
          .refused h hreply hattempts, ?_, ?_⟩
        · rw [hstatements]
          simp
        · rw [hskips]
          simp [Effect.skip?_logged (hskip e.toError)]
      · rw [attempt_accepted hreply]
        obtain ⟨sent, accepted, skipped, w', hrun, hattempts, hstatements, hskips⟩ :=
          ih (World.recordEvents (result x).2 { World.record (.sent st) w with outside := o })
        refine ⟨st :: sent, x :: accepted, skipped, w', ?_, .accepted h hreply hattempts, ?_, ?_⟩
        · change (_ :: _, _) = _
          rw [hrun]
          rfl
        · rw [hstatements]
          simp
        · rw [hskips, World.skips_recordEvents (hresult x)]
          simp

theorem bestEffort_settles (s : Session ω) (skip : Error → Event)
    (statement : α → Except Error Statement) (result : α → β × List Event) (batch : List α)
    (hskip : ∀ e, (skip e).isSkip = true)
    (hresult : ∀ x, ∀ event ∈ (result x).2, event.isSkip = false) (w : World ω) :
    ∃ accepted skipped w',
      (bestEffort skip (fun x => s.attempt (statement x) (result x)) batch).run w =
        (accepted.map fun x => (result x).1, w') ∧
      s.Settles statement skip batch w w' accepted skipped := by
  obtain ⟨sent, accepted, skipped, w', hrun, hattempts, hstatements, hskips⟩ :=
    bestEffort_attempts (s := s) statement result batch hskip hresult w
  have hpartition := hattempts.partition
  obtain rfl := hattempts.sent_eq
  exact ⟨accepted, skipped, w', hrun, hattempts, hpartition, hstatements, hskips⟩

end Session

end WideColumn

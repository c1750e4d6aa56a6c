import WideColumn.Proofs.Session.PlannedTable
import WideColumn.Proofs.Session.WriteBack

/-!
The place of the residual filter. On stored rows it finds a column by its spelling; on what is made
of them, by its normalized name and as it is read back. Both keep the same rows where the two
readings agree.
-/

namespace WideColumn

theorem agree_of_map_filter_eq {α β : Type} {p q : α → Bool} {f : α → β} {xs : List α}
    (hq : ∀ x y, f x = f y → q x = q y) (h : (xs.filter p).map f = (xs.filter q).map f) :
    ∀ x ∈ xs, p x = q x := by
  -- what passes the first test passes the other, and no more of them do
  have hpq : ∀ x ∈ xs, p x = true → q x = true := by
    intro x hx hp
    have hmem : f x ∈ (xs.filter q).map f :=
      h ▸ List.mem_map_of_mem (List.mem_filter.mpr ⟨hx, hp⟩)
    obtain ⟨y, hy, heq⟩ := List.mem_map.mp hmem
    rw [← hq y x heq]
    exact (List.mem_filter.mp hy).2
  have hfilter : xs.filter p = (xs.filter q).filter p := by
    rw [List.filter_filter]
    apply List.filter_congr
    intro x hx
    cases hp : p x with
    | false => rfl
    | true => exact (hpq x hx hp).symm
  have hlength : (xs.filter p).length = (xs.filter q).length := by
    have hmapped := congrArg List.length h
    rwa [List.length_map, List.length_map] at hmapped
  have hsame : xs.filter p = xs.filter q := by
    rw [hfilter] at hlength ⊢
    exact List.filter_sublist.eq_of_length hlength
  intro x hx
  apply Bool.eq_iff_iff.mpr
  have hmem : x ∈ xs.filter p ↔ x ∈ xs.filter q := by rw [hsame]
  rwa [List.mem_filter, List.mem_filter, and_iff_right hx, and_iff_right hx] at hmem

namespace Session

open WideColumn.Action (outcome_bind outcome_bind_of_ok outcome_bind_eq_ok outcome_ofExcept_eq_ok
  outcome_pure_eq_ok)

variable {ω : Type} {s : Session ω} {q : Query} {params : List Value} {plan : SelectPlan}
  {rows : List Row} {w w' : World ω}

def evaluating (s : Session ω) (post : PostEvaluation) : Session ω :=
  { s with postEvaluation := post }

theorem runSelect_eq_ok (h : (s.runSelect q params).outcome w = (.ok (plan, rows), w')) :
    s.selectPlan q params = .ok plan := by
  rw [runSelect_eq] at h
  obtain ⟨planned, _, hplanned, h⟩ := outcome_bind_eq_ok.mp h
  obtain ⟨answered, _, -, hlast⟩ := outcome_bind_eq_ok.mp h
  obtain ⟨heq, -⟩ := outcome_pure_eq_ok.mp hlast
  cases heq
  exact (outcome_ofExcept_eq_ok.mp hplanned).1

def presentMaps (s : Session ω) (q : Query) (plan : SelectPlan) (kept : List Row) : List RowMap :=
  s.applyProjection plan.projection
    (Window.apply q.start q.limit (kept.map (RowMap.ofRow s.naming)))

theorem selectRows_outcome (post : PostEvaluation)
    (h : (s.runSelect q params).outcome w = (.ok (plan, rows), w')) :
    ((s.evaluating post).selectRows q params).outcome w = (.ok (.mapRows (s.presentMaps q plan
      (rows.filter (mapVerdict s.naming plan.pushdown.residual.filter post)))), w') := by
  have hbound := isBound_of_selectPlan (runSelect_eq_ok h)
  have hrun : ((s.evaluating post).runSelect q params).outcome w = (.ok (plan, rows), w') := h
  have hkept : (s.evaluating post).keepMaps plan.pushdown.residual.filter rows = _ :=
    keepMaps_verdict hbound rows
  simp only [selectRows, fetchMaps, bind_assoc, pure_bind]
  rw [outcome_bind_of_ok hrun]
  dsimp only
  rw [hkept]
  rfl

theorem selectRows_refused (post : PostEvaluation) {e : Error}
    (h : (s.runSelect q params).outcome w = (.error e, w')) :
    ((s.evaluating post).selectRows q params).outcome w = (.error e, w') := by
  have hrun : ((s.evaluating post).runSelect q params).outcome w = (.error e, w') := h
  simp only [selectRows, fetchMaps, bind_assoc]
  rw [outcome_bind, hrun]

/-- Row maps are the same wherever the filter runs if the verdicts on every row are, and without
return fields and window only then. They are if the store spells the columns that are tested as
they are normalized, and has no two values under one of them. -/
theorem selectRows_strategies (s : Session ω) (q : Query) (params : List Value) (w : World ω) :
    (∀ e w', (s.runSelect q params).outcome w = (.error e, w') → ∀ post,
      ((s.evaluating post).selectRows q params).outcome w = (.error e, w')) ∧
    ∀ plan rows w', (s.runSelect q params).outcome w = (.ok (plan, rows), w') →
      let filter := plan.pushdown.residual.filter
      let verdict := mapVerdict s.naming filter
      let answer (post : PostEvaluation) := ((s.evaluating post).selectRows q params).outcome w
      (∀ post, answer post =
        (.ok (.mapRows (s.presentMaps q plan (rows.filter (verdict post)))), w')) ∧
      ((∀ row ∈ rows, verdict .rawRows row = verdict .materialized row) →
        answer .rawRows = answer .materialized) ∧
      (q.fields = [] → q.start = none → q.limit = none →
        answer .rawRows = answer .materialized →
        ∀ row ∈ rows, verdict .rawRows row = verdict .materialized row) ∧
      ∀ row : Row,
        (∀ t ∈ Predicate.leavesOf filter, row.Spells s.naming (s.naming.normalize t.field)) →
        verdict .rawRows row = verdict .materialized row := by
  refine ⟨fun e w' h post => selectRows_refused post h, fun plan rows w' h => ?_⟩
  intro filter verdict answer
  have hanswer (post : PostEvaluation) : answer post =
      (.ok (.mapRows (s.presentMaps q plan (rows.filter (verdict post)))), w') :=
    selectRows_outcome post h
  refine ⟨hanswer, fun hsame => ?_, fun hfields hstart hlimit heq => ?_, fun row hspells =>
    (mapVerdict_of_spells .materialized hspells).symm⟩
  · rw [hanswer, hanswer, List.filter_congr hsame]
  · obtain ⟨_, pushdown, -, -, hprojection, -⟩ := selectPlan_eq_ok (runSelect_eq_ok h)
    rw [hfields] at hprojection
    have hmaps (kept : List Row) :
        s.presentMaps q plan kept = kept.map (RowMap.ofRow s.naming) := by
      rw [presentMaps, hprojection, hstart, hlimit]
      rfl
    rw [hanswer, hanswer, hmaps, hmaps] at heq
    simp only [Prod.mk.injEq, Except.ok.injEq, ResultSet.mapRows.injEq] at heq
    refine agree_of_map_filter_eq (fun row row' hmap => ?_) heq.1
    exact congrArg (fun map => Predicate.accepts (.ofMap s.naming map) filter) hmap

theorem selectRows_strategies_laterUsers : ∃ plan w',
    (storedSession.runSelect laterUsers []).outcome { outside := 0 } =
        (.ok (plan, storedUsers), w') ∧
      ((storedSession.evaluating .rawRows).selectRows laterUsers []).outcome { outside := 0 } =
        ((storedSession.evaluating .materialized).selectRows laterUsers []).outcome
          { outside := 0 } ∧
      storedSession.presentMaps laterUsers plan (storedUsers.filter
        (mapVerdict .identity plan.pushdown.residual.filter .rawRows)) =
        [.ofList [("label", .text "C"), ("id", .int 3)]] := by
  have hrun : ∃ plan w', (storedSession.runSelect laterUsers []).outcome { outside := 0 } =
      (.ok (plan, storedUsers), w') ∧ storedSession.presentMaps laterUsers plan
        (storedUsers.filter (mapVerdict .identity plan.pushdown.residual.filter .rawRows)) =
        [.ofList [("label", .text "C"), ("id", .int 3)]] := ⟨_, _, rfl, rfl⟩
  obtain ⟨plan, w', hrun, hmaps⟩ := hrun
  obtain ⟨-, hstrategies⟩ := selectRows_strategies storedSession laterUsers [] { outside := 0 }
  obtain ⟨-, hagree, -, hspells⟩ := hstrategies plan storedUsers w' hrun
  refine ⟨plan, w', hrun, hagree fun row hrow => hspells row fun t _ => ?_, hmaps⟩
  have hnative : row.IsNative .identity := by
    have hstored : ∀ row ∈ storedUsers, row.IsFull .identity ["id"] := by
      simp only [storedUsers, List.forall_mem_cons]
      exact ⟨Row.isFull_of_columns rfl (by decide) rfl, Row.isFull_of_columns rfl (by decide) rfl,
        Row.isFull_of_columns rfl (by decide) rfl, List.forall_mem_nil _⟩
    exact (hstored row hrow).toIsNative
  exact hnative.spells _

def usersNamedA : Query where
  resource := "user"
  filter := [.test ⟨"name", .compare .eq, .value (.text "A")⟩]

/-- A row whose column is spelled otherwise is found by its map alone. -/
theorem selectRows_strategies_differ : ∃ s : Session Nat, ∃ map w',
    s.naming = .snakeCase ∧
      ((s.evaluating .rawRows).selectRows usersNamedA []).outcome { outside := 0 } =
        (.ok (.mapRows []), w') ∧
      ((s.evaluating .materialized).selectRows usersNamedA []).outcome { outside := 0 } =
        (.ok (.mapRows [map]), w') ∧
      map.entries = [("name", .text "A")] :=
  ⟨{ snakeSession with transport := answering [⟨[("Name", .text "A")]⟩] }, _, _, rfl, rfl, rfl, rfl⟩

end Session

end WideColumn

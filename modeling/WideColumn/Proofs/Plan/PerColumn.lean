import WideColumn.Proofs.Plan.Grouping
import WideColumn.Proofs.Plan.Intersection
import WideColumn.Proofs.Query.Reduction

namespace WideColumn

namespace ColumnLeaf

open WideColumn.Membership (intersection)

def oneOf (c : String) : List Value → List Fragment
  | [] => []
  | values => [.oneOf c values]

def fragments (keys : KeyLayout) (c : String) : List ColumnLeaf → List Fragment
  | [] => []
  | l :: ls =>
    if ∀ m ∈ ls, m.kind = l.kind then
      match l.kind with
      | .compare .eq => [.compare c .eq l.operand]
      | .compare op => (l :: ls).map fun m => .compare c op m.operand
      | .within =>
        if keys.isCollection c then
          (l :: ls).flatMap fun m => (m.operand.asSequence.getD [m.operand]).map (.contains c)
        else oneOf c (intersection ((l :: ls).map fun m => m.operand.elements))
      | .notEqual | .notWithin => []
    else []

def answered (keys : KeyLayout) (c : String) : List ColumnLeaf → List ColumnLeaf
  | [] => []
  | l :: ls =>
    if (fragments keys c (l :: ls)).isEmpty then []
    else match l.kind with
      | .compare .eq => (l :: ls).filter fun m => l.operand.looseEq m.operand
      | _ => l :: ls

theorem mem_of_mem_answered {keys : KeyLayout} {c : String} {ls : List ColumnLeaf} {l : ColumnLeaf}
    (h : l ∈ answered keys c ls) : l ∈ ls := by
  cases ls with
  | nil => exact h
  | cons m ms =>
    rw [answered] at h
    split at h
    · contradiction
    · split at h
      · exact (List.mem_filter.mp h).1
      · exact h

end ColumnLeaf

namespace ColumnTests

open ColumnLeaf

theorem ofLeaves_operands (l : ColumnLeaf) (ls : List ColumnLeaf) :
    (ofLeaves l ls).tests.map Prod.snd = (l :: ls).map operand := by
  simp [ofLeaves]

theorem ofLeaves_positions (l : ColumnLeaf) (ls : List ColumnLeaf) :
    (ofLeaves l ls).tests.map Prod.fst = (l :: ls).map position := by
  simp [ofLeaves]

theorem filter_tests (p : Value → Bool) (ls : List ColumnLeaf) :
    ((ls.map fun m => (m.position, m.operand)).filter fun test => p test.2).map Prod.fst =
      (ls.filter fun m => p m.operand).map position := by
  simp [List.filter_map, Function.comp_def]

theorem emit_ofLeaves {keys : KeyLayout} {l : ColumnLeaf} {ls : List ColumnLeaf}
    (hk : ∀ m ∈ ls, m.kind = l.kind) {fs : List Fragment} {positions : List LeafId}
    (h : (ofLeaves l ls).emit keys = .ok (fs, positions)) :
    fs = fragments keys l.column (l :: ls) ∧
      positions = (answered keys l.column (l :: ls)).map position := by
  have hkind : (ofLeaves l ls).kind = l.kind := rfl
  have hcolumn : (ofLeaves l ls).column = l.column := rfl
  simp only [emit, ofLeaves_operands, ofLeaves_positions, hkind, hcolumn] at h
  rw [answered, fragments, if_pos hk]
  cases hl : l.kind with
  | compare op =>
    cases op with
    | eq =>
      simp only [hl, List.map_cons, Except.ok.injEq, Prod.mk.injEq] at h
      obtain ⟨rfl, rfl⟩ := h
      exact ⟨rfl, filter_tests l.operand.looseEq (l :: ls)⟩
    | gt | ge | lt | le =>
      simp only [hl, Except.ok.injEq, Prod.mk.injEq] at h
      obtain ⟨rfl, rfl⟩ := h
      exact ⟨by simp, rfl⟩
  | within =>
    simp only [hl] at h
    split at h
    · rename_i hc
      have hflat : ((l :: ls).map operand).flatMap (fun v => v.asSequence.getD [v]) =
          (l :: ls).flatMap fun m => m.operand.asSequence.getD [m.operand] :=
        List.flatMap_map _ _ _
      simp only [if_pos hc, ← List.map_flatMap]
      rw [hflat] at h
      cases he : (l :: ls).flatMap fun m => m.operand.asSequence.getD [m.operand] with
      | nil =>
        simp only [he, Except.ok.injEq, Prod.mk.injEq] at h
        exact ⟨h.1.symm, h.2.symm⟩
      | cons e es =>
        simp only [he, Except.ok.injEq, Prod.mk.injEq] at h
        exact ⟨h.1.symm, h.2.symm⟩
    · rename_i hc
      obtain ⟨lists, hlists, h⟩ := Outcome.bind_eq_ok.mp h
      rw [Membership.common_eq_intersection, Membership.lists_eq_elements hlists, List.map_map] at h
      simp only [if_neg hc]
      cases he : Membership.intersection ((l :: ls).map (Value.elements ∘ operand)) with
      | nil =>
        simp only [he, Outcome.pure_eq_ok, Prod.mk.injEq] at h
        simp only [Function.comp_def] at he
        rw [he]
        exact h
      | cons e es =>
        simp only [he, Outcome.pure_eq_ok, Prod.mk.injEq] at h
        simp only [Function.comp_def] at he
        rw [he]
        exact h
  | notEqual | notWithin =>
    simp only [hl, Except.ok.injEq, Prod.mk.injEq] at h
    exact ⟨h.1.symm, h.2.symm⟩

theorem emitAll_columns {keys : KeyLayout} {ls : List ColumnLeaf} {cs : List String}
    {fs : List Fragment} {positions : List LeafId}
    (h : emitAll keys (cs.filterMap fun c => collect? (onColumn c ls)) = .ok (fs, positions)) :
    fs = cs.flatMap (fun c => fragments keys c (onColumn c ls)) ∧
      positions = cs.flatMap fun c => (answered keys c (onColumn c ls)).map position := by
  induction cs generalizing fs positions with
  | nil =>
    cases h
    exact ⟨rfl, rfl⟩
  | cons c cs ih =>
    rw [List.flatMap_cons, List.flatMap_cons]
    cases hc : onColumn c ls with
    | nil =>
      rw [List.filterMap_cons_none (by rw [hc]; rfl)] at h
      exact ih h
    | cons m ms =>
      have hm : m.column = c := (mem_onColumn.mp (hc ▸ List.mem_cons_self)).2
      by_cases hk : ∀ n ∈ ms, n.kind = m.kind
      · rw [List.filterMap_cons_some (by rw [hc]; exact collect?_agreeing hk), emitAll] at h
        obtain ⟨⟨gs, is⟩, hg, h⟩ := Outcome.bind_eq_ok.mp h
        obtain ⟨⟨hs, js⟩, hh, h⟩ := Outcome.bind_eq_ok.mp h
        obtain ⟨rfl, rfl⟩ := emit_ofLeaves hk hg
        obtain ⟨rfl, rfl⟩ := ih hh
        cases h
        rw [hm]
        exact ⟨rfl, rfl⟩
      · obtain ⟨g, hg, hspoiled⟩ := collect?_differing hk
        rw [List.filterMap_cons_some (by rw [hc]; exact hg), emitAll, hspoiled] at h
        have hnone : fragments keys c (m :: ms) = [] := if_neg hk
        obtain ⟨rfl, rfl⟩ := ih h
        simp [hnone, answered]

end ColumnTests

open ColumnLeaf

namespace Query

def answers (keys : KeyLayout) (naming : Naming) (b : Query) : List ColumnLeaf :=
  (b.testedColumns keys naming).flatMap fun c => answered keys c (b.testsOn keys naming c)

variable {q b : Query} {keys : KeyLayout} {naming : Naming} {params : List Value} {p : Pushdown}

theorem mem_answers {l : ColumnLeaf} : l ∈ b.answers keys naming ↔
    ∃ c ∈ b.testedColumns keys naming, l ∈ answered keys c (b.testsOn keys naming c) :=
  List.mem_flatMap

theorem plan_eq_ok (h : q.plan keys naming params = .ok p) :
    ∃ b, q.bind params = .ok b ∧
      p.fragments = (b.testedColumns keys naming).flatMap (fun c =>
        fragments keys c (b.testsOn keys naming c)) ∧
      p.pushed = (b.conjunctiveLeaves.map Prod.fst).filter
        ((b.answers keys naming).map position).contains ∧
      p.residual = b.reduce p.pushed := by
  obtain ⟨b, hb, h⟩ := Outcome.bind_eq_ok.mp h
  obtain ⟨⟨fs, positions⟩, hemit, h⟩ := Outcome.bind_eq_ok.mp h
  rw [ColumnTests.ofQuery_eq] at hemit
  obtain ⟨rfl, rfl⟩ := ColumnTests.emitAll_columns hemit
  cases h
  refine ⟨b, hb, rfl, ?_, rfl⟩
  rw [answers, List.map_flatMap]
  rfl

theorem leaf_of_mem_answers {l : ColumnLeaf} (h : l ∈ b.answers keys naming) :
    ∃ leaf ∈ b.conjunctiveLeaves, ofLeaf? keys naming leaf = some l := by
  obtain ⟨c, -, hl⟩ := mem_answers.mp h
  exact mem_ofQuery.mp (mem_testsOn.mp (mem_of_mem_answered hl)).1

theorem mem_pushed {id : LeafId} :
    id ∈ (b.conjunctiveLeaves.map Prod.fst).filter
        ((b.answers keys naming).map position).contains ↔
      ∃ l ∈ b.answers keys naming, l.position = id := by
  rw [List.mem_filter, List.contains_iff_mem, ← List.mem_map]
  constructor
  · exact And.right
  · intro h
    refine ⟨?_, h⟩
    obtain ⟨l, hl, rfl⟩ := List.mem_map.mp h
    obtain ⟨leaf, hleaf, hofLeaf⟩ := leaf_of_mem_answers hl
    rw [position_of_ofLeaf? hofLeaf]
    exact List.mem_map_of_mem hleaf

end Query

end WideColumn

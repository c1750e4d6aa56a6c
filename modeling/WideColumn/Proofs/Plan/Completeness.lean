import WideColumn.Proofs.Plan.Reading

/-!
The rows that a plan keeps. A row that matches the query passes every fragment, except on columns
with membership tests: there the operands are compared before they are coerced, and the row is
compared with coerced ones.
-/

namespace WideColumn

namespace ColumnLeaf

open WideColumn.Membership (intersection of_mem_intersection exists_mem_intersection)
open Value

variable {keys : KeyLayout} {c : String} {l : ColumnLeaf} {ls : List ColumnLeaf} {a : Value}

/-- The membership tests of one column keep a value that passes them. On a collection it has what a
set loses by coercion; elsewhere the intersection is empty or has an element it is equal to. -/
def Keeps (keys : KeyLayout) (c : String) (a : Value) (ls : List ColumnLeaf) : Prop :=
  (∀ m ∈ ls, m.kind = .within) →
    if keys.isCollection c then
      ∀ m ∈ ls, ∀ e ∈ m.operand.elements, e.coerce ∈ m.operand.coerce.elements ∨
        ∃ item ∈ a.coerce.elements, item.looseEq e.coerce = true
    else
      intersection (ls.map fun m => m.operand.elements) = [] ∨
        ∃ e ∈ intersection (ls.map fun m => m.operand.elements), a.coerce.looseEq e.coerce = true

theorem keeps_of_kind (hl : l.kind ≠ .within) : Keeps keys c a (l :: ls) :=
  fun h => absurd (h l List.mem_cons_self) hl

theorem contained_iff {m : ColumnLeaf} (ha : a.asSequence ≠ none) (hm : m.kind = .within)
    (h : m.accepts a = true) :
    (∀ e ∈ m.operand.asSequence.getD [m.operand],
        ∃ item ∈ a.coerce.elements, item.looseEq e.coerce = true) ↔
      ∀ e ∈ m.operand.elements, e.coerce ∈ m.operand.coerce.elements ∨
        ∃ item ∈ a.coerce.elements, item.looseEq e.coerce = true := by
  have hwithin := (accepts_collection_iff ha hm).mp h
  by_cases hoperand : m.operand.asSequence = none
  · have hcoerced := asSequence_coerce_eq_none.mpr hoperand
    simp only [hcoerced, Option.getD_none, List.mem_singleton, forall_eq] at hwithin
    simp only [hoperand, Option.getD_none, List.mem_singleton, forall_eq, elements,
      List.not_mem_nil, false_implies, implies_true, iff_true]
    exact hwithin
  · have hcoerced := mt asSequence_coerce_eq_none.mp hoperand
    rw [getD_asSequence hcoerced] at hwithin
    rw [getD_asSequence hoperand]
    constructor
    · intro hall e he
      exact .inr (hall e he)
    · intro hall e he
      rcases hall e he with hmem | hitem
      · exact hwithin _ hmem
      · exact hitem

theorem accepted_iff_keeps (hmatch : ∀ m ∈ l :: ls, m.accepts a = true)
    (hfit : a.asSequence.isSome = keys.isCollection c) :
    (∀ f ∈ fragments keys c (l :: ls), f.accepts a = true) ↔ Keeps keys c a (l :: ls) := by
  by_cases hagree : ∀ m ∈ ls, m.kind = l.kind
  · have hfirst := hmatch l List.mem_cons_self
    cases hl : l.kind with
    | compare op =>
      have hkeeps : Keeps keys c a (l :: ls) := keeps_of_kind (by rw [hl]; simp)
      refine iff_of_true ?_ hkeeps
      by_cases hop : op = .eq
      · subst hop
        rw [accepted_equality hagree hl]
        rw [accepts, hl] at hfirst
        exact hfirst
      · rw [accepted_range hagree hl hop]
        exact hmatch
    | within =>
      have hkind := kind_of_agreeing hagree hl
      cases hc : keys.isCollection c with
      | false =>
        rw [accepted_membership hagree hl hc, Keeps, forall_prop_of_true hkind, hc]
        simp
      | true =>
        rw [accepted_containment hagree hl hc, Keeps, forall_prop_of_true hkind, hc, if_pos rfl]
        have ha : a.asSequence ≠ none := Option.isSome_iff_ne_none.mp (hfit.trans hc)
        exact forall₂_congr fun m hm => contained_iff ha (hkind m hm) (hmatch m hm)
    | notEqual | notWithin =>
      have hnone : fragments keys c (l :: ls) = [] := by rw [fragments, if_pos hagree, hl]
      rw [hnone]
      exact iff_of_true (List.forall_mem_nil _) (keeps_of_kind (by rw [hl]; simp))
  · rw [fragments_differing hagree]
    refine iff_of_true (List.forall_mem_nil _) fun h => absurd (fun m hm => ?_) hagree
    rw [h m (List.mem_cons_of_mem l hm), h l List.mem_cons_self]

theorem contains_of_kept {m : ColumnLeaf} {e : Value} (ha : a.asSequence ≠ none)
    (hm : m.kind = .within) (h : m.accepts a = true) (hkept : m.operand.KeepsElements)
    (he : e ∈ m.operand.elements) (hexact : e.coerce.isExact = true) :
    ∃ item ∈ a.coerce.elements, item.looseEq e.coerce = true := by
  have hwithin := (accepts_collection_iff ha hm).mp h
  rw [getD_asSequence (mt asSequence_coerce_eq_none.mp (asSequence_ne_none he))] at hwithin
  obtain ⟨r, hr, heq⟩ := hkept e he
  obtain ⟨item, hitem, hloose⟩ := hwithin r hr
  refine ⟨item, hitem, ?_⟩
  rcases heq with rfl | heq
  · exact hloose
  · exact looseEq_trans item (.inr hexact) hloose heq

theorem exists_element {m : ColumnLeaf} (ha : a.asSequence = none) (hm : m.kind = .within)
    (h : m.accepts a = true) (hoperand : m.operand.asSequence ≠ none) :
    ∃ e ∈ m.operand.elements, a.coerce.looseEq e.coerce = true := by
  obtain ⟨r, hr, hloose⟩ := (accepts_scalar_iff ha hm hoperand).mp h
  obtain ⟨e, he, rfl⟩ := exists_of_mem_elements_coerce hr
  exact ⟨e, he, hloose⟩

theorem looseEq_of_actual {x y : Value} (ha : a.asSequence = none) (hx : a.looseEq x = true)
    (hy : a.looseEq y = true) (hexact : x.isExact = true) : x.looseEq y = true := by
  rw [looseEq_comm x ha] at hx
  exact looseEq_trans x (.inl hexact) hx hy

theorem exists_mem_operands (hmatch : ∀ m ∈ l :: ls, m.accepts a = true)
    (hkind : ∀ m ∈ l :: ls, m.kind = .within) (ha : a.asSequence = none)
    (hvalues : Interchangeable (allElements (l :: ls)))
    (hoperands : ∀ m ∈ l :: ls, m.operand.asSequence ≠ none) :
    ∃ e ∈ intersection ((l :: ls).map fun m => m.operand.elements),
      a.coerce.looseEq e.coerce = true := by
  have hscalar : a.coerce.asSequence = none := asSequence_coerce_eq_none.mpr ha
  have hl := List.mem_cons_self (a := l) (l := ls)
  obtain ⟨e, he, hloose⟩ := exists_element ha (hkind l hl) (hmatch l hl) (hoperands l hl)
  have hevalue := mem_allElements hl he
  have hothers : ∀ list ∈ ls.map fun m => m.operand.elements, ∃ o ∈ list, e.looseEq o = true := by
    rw [List.forall_mem_map]
    intro m hm
    have hm' := List.mem_cons_of_mem l hm
    obtain ⟨o, ho, hother⟩ := exists_element ha (hkind m hm') (hmatch m hm') (hoperands m hm')
    refine ⟨o, ho, ?_⟩
    rw [hvalues.coerced e hevalue o (mem_allElements hm' ho)]
    exact looseEq_of_actual hscalar hloose hother (hvalues.exact e hevalue)
  -- deduplication may have kept a raw equal of `e` instead
  obtain ⟨k, hk, heq⟩ := exists_mem_intersection he hothers
  refine ⟨k, hk, ?_⟩
  rcases heq with rfl | heq
  · exact hloose
  · have hkvalue := mem_allElements hl (of_mem_intersection hk).1
    rw [hvalues.coerced k hkvalue e hevalue] at heq
    have hback : e.coerce.looseEq k.coerce = true := by
      rw [looseEq_comm _ (asSequence_of_looseEq hscalar hloose)]
      exact heq
    exact looseEq_trans _ (.inr (hvalues.exact k hkvalue)) hloose hback

theorem keeps_of_comparable (hmatch : ∀ m ∈ l :: ls, m.accepts a = true)
    (hfit : a.asSequence.isSome = keys.isCollection c)
    (h : (∀ m ∈ l :: ls, m.kind = .within) → MembershipsComparable keys c (l :: ls)) :
    Keeps keys c a (l :: ls) := by
  intro hkind
  obtain ⟨hintersected, hkept, hexact⟩ := h hkind
  split
  · rename_i hc
    have ha : a.asSequence ≠ none := Option.isSome_iff_ne_none.mp (hfit.trans hc)
    intro m hm e he
    exact .inr (contains_of_kept ha (hkind m hm) (hmatch m hm) (hkept m hm) he (hexact m hm e he))
  · rename_i hc
    have hscalar : keys.isCollection c = false := by simpa using hc
    have ha : a.asSequence = none := by simpa using hfit.trans hscalar
    by_cases hoperands : ∀ m ∈ l :: ls, m.operand.asSequence ≠ none
    · exact .inr (exists_mem_operands hmatch hkind ha (hintersected hscalar) hoperands)
    · simp only [not_forall, not_not] at hoperands
      obtain ⟨m, hm, hnone⟩ := hoperands
      exact .inl (intersection_operands_eq_nil hm hnone)

end ColumnLeaf

namespace Row

open ColumnLeaf

variable {keys : KeyLayout} {naming : Naming} {row : Row} {b : Query} {c : String}

theorem Matches.value (h : row.Matches naming b) (hc : c ∈ b.testedColumns keys naming) :
    ∃ a, row.get? c = some a ∧ ∀ l ∈ b.testsOn keys naming c, l.accepts a = true := by
  obtain ⟨l, hl⟩ := List.exists_mem_of_ne_nil _ (Query.testsOn_ne_nil hc)
  have hvalue : ∀ m ∈ b.testsOn keys naming c, (row.get? c).any (fun a => m.accepts a) = true := by
    intro m hm
    obtain ⟨hmem, rfl⟩ := Query.mem_testsOn.mp hm
    exact h.holds hmem
  cases ha : row.get? c with
  | none => simpa [ha] using hvalue l hl
  | some a => exact ⟨a, rfl, fun m hm => by simpa [ha] using hvalue m hm⟩

end Row

namespace Query

open ColumnLeaf

/-- A row that matches the query matches the residual one. It passes the fragments just when every
column keeps its value, and it does that whenever the memberships can be compared. -/
theorem plan_keeps {q b : Query} {keys : KeyLayout} {naming : Naming} {params : List Value}
    {p : Pushdown} {row : Row} (hp : q.plan keys naming params = .ok p)
    (hb : q.bind params = .ok b) (hfit : row.Fits keys) (hrow : row.Matches naming b) :
    row.Matches naming p.residual ∧
      ((∀ f ∈ p.fragments, f.holds row = true) ↔
        ∀ c ∈ b.testedColumns keys naming, ∀ a, row.get? c = some a →
          Keeps keys c a (b.testsOn keys naming c)) ∧
      ((∀ c ∈ b.testedColumns keys naming, (∀ l ∈ b.testsOn keys naming c, l.kind = .within) →
          MembershipsComparable keys c (b.testsOn keys naming c)) →
        ∀ f ∈ p.fragments, f.holds row = true) := by
  obtain ⟨b', hb', hfragments, hpushed, hresidual⟩ := plan_eq_ok hp
  obtain rfl : b' = b := Except.ok.inj (hb'.symm.trans hb)
  have hcolumn : ∀ c ∈ b'.testedColumns keys naming, ∃ a l ls, row.get? c = some a ∧
      b'.testsOn keys naming c = l :: ls ∧ (∀ m ∈ l :: ls, m.accepts a = true) ∧
        a.asSequence.isSome = keys.isCollection c := by
    intro c hc
    obtain ⟨a, ha, hmatch⟩ := hrow.value hc
    obtain ⟨l, ls, hls⟩ := List.exists_cons_of_ne_nil (testsOn_ne_nil hc)
    exact ⟨a, l, ls, ha, hls, hls ▸ hmatch, hfit c a ha⟩
  have hkept : (∀ f ∈ p.fragments, f.holds row = true) ↔
      ∀ c ∈ b'.testedColumns keys naming, ∀ a, row.get? c = some a →
        Keeps keys c a (b'.testsOn keys naming c) := by
    rw [hfragments, List.forall_mem_flatMap]
    apply forall₂_congr
    intro c hc
    obtain ⟨a, l, ls, ha, hls, hmatch, hshape⟩ := hcolumn c hc
    rw [hold_fragments ha, hls, accepted_iff_keeps hmatch hshape, ha]
    simp
  refine ⟨((Row.matches_iff hpushed hresidual).mp hrow).2, hkept, ?_⟩
  intro hcomparable
  rw [hkept]
  intro c hc a ha
  obtain ⟨a', l, ls, ha', hls, hmatch, hshape⟩ := hcolumn c hc
  obtain rfl : a' = a := Option.some.inj (ha'.symm.trans ha)
  have h := hcomparable c hc
  rw [hls] at h ⊢
  exact keeps_of_comparable hmatch hshape h

def tagged : Query :=
  { resource := "user"
    filter := [
      .test ⟨"status", .within, .value (.list [.text "A", .text "B"])⟩,
      .any [.test ⟨"status", .notEqual, .value .null⟩],
      .test ⟨"status", .within, .parameter 0⟩,
      .test ⟨"tags", .within, .value (.set [.text "x", .text "x"])⟩] }

def taggedKeys : KeyLayout := { indexed := ["status", "tags"], collections := ["tags"] }

def taggedRow : Row := ⟨[("status", .text "B"), ("tags", .list [.text "x", .text "y"])]⟩

theorem plan_keeps_taggedRow : ∃ p b,
    tagged.plan taggedKeys .identity [.list [.text "B"]] = .ok p ∧
      tagged.bind [.list [.text "B"]] = .ok b ∧ p.fragments.map Fragment.text =
        ["status IN (?)", "tags CONTAINS ?", "tags CONTAINS ?"] ∧
      taggedRow.Fits taggedKeys ∧ taggedRow.Matches .identity b ∧
      ∀ f ∈ p.fragments, f.holds taggedRow = true := by
  have hplan : ∃ p b, tagged.plan taggedKeys .identity [.list [.text "B"]] = .ok p ∧
      tagged.bind [.list [.text "B"]] = .ok b ∧ p.fragments.map Fragment.text =
        ["status IN (?)", "tags CONTAINS ?", "tags CONTAINS ?"] ∧
      taggedRow.Matches .identity b ∧ ∀ c ∈ b.testedColumns taggedKeys .identity,
        ∀ m ∈ b.testsOn taggedKeys .identity c, ∀ e ∈ m.operand.elements, e.isPlain = true :=
    ⟨_, _, rfl, rfl, rfl, rfl, by decide⟩
  obtain ⟨p, b, hp, hb, htext, hrow, hplain⟩ := hplan
  have hfit : taggedRow.Fits taggedKeys := Row.fits_of_columns (by decide)
  refine ⟨p, b, hp, hb, htext, hfit, hrow, ?_⟩
  apply (plan_keeps hp hb hfit hrow).2.2
  exact fun c hc _ => membershipsComparable_of_plain (hplain c hc)

def labelled : Query :=
  { resource := "user"
    filter := [
      .test ⟨"status", .within, .value (.list [.enum ⟨"ACTIVE", none⟩, .text "PENDING"])⟩,
      .test ⟨"status", .within, .value (.list [.text "ACTIVE", .text "PENDING"])⟩] }

/-- A label is not its own text before coercion, so the intersection loses it and the row. -/
theorem plan_loses_labelled : ∃ p b row,
    labelled.plan { indexed := ["status"] } .identity [] = .ok p ∧ labelled.bind [] = .ok b ∧
      row.Fits { indexed := ["status"] } ∧ row.Matches .identity b ∧
      ¬∀ f ∈ p.fragments, f.holds row = true :=
  ⟨_, _, ⟨[("status", .text "ACTIVE")]⟩, rfl, rfl, Row.fits_of_columns (by decide), rfl,
    by decide⟩

end Query

end WideColumn

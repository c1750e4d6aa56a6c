import WideColumn.Proofs.Plan.Reading

/-!
The rows that a plan admits. A row that passes the fragments passes the leaves they answer, except
where one value was asked in place of another: the first of several equalities, and an intersection
of memberships.
-/

namespace WideColumn

namespace ColumnLeaf

open WideColumn.Membership (intersection of_mem_intersection)
open Value

variable {keys : KeyLayout} {c : String} {l : ColumnLeaf} {ls : List ColumnLeaf} {a : Value}

/-- A value accepted by the fragments of one column passes what they were asked in place of. -/
def Stands (keys : KeyLayout) (c : String) (a : Value) : List ColumnLeaf → Prop
  | [] => True
  | l :: ls => (∀ m ∈ ls, m.kind = l.kind) →
    (l.kind = .compare .eq → ∀ m ∈ ls, l.operand.looseEq m.operand = true →
      a.coerce.looseEq m.operand.coerce = true) ∧
    (l.kind = .within → keys.isCollection c = false →
      intersection ((l :: ls).map fun m => m.operand.elements) ≠ [] →
        ∀ m ∈ l :: ls, ∃ r ∈ m.operand.coerce.elements, a.coerce.looseEq r = true)

theorem answered_agreeing (hl : l.kind ≠ .compare .eq)
    (h : fragments keys c (l :: ls) ≠ []) : answered keys c (l :: ls) = l :: ls := by
  rw [answered, if_neg (by simpa using h)]
  split
  · contradiction
  · rfl

theorem answered_equality (h : ∀ m ∈ ls, m.kind = l.kind) (hl : l.kind = .compare .eq) :
    answered keys c (l :: ls) = (l :: ls).filter fun m => l.operand.looseEq m.operand := by
  have hne : (fragments keys c (l :: ls)).isEmpty = false := by rw [fragments, if_pos h, hl]; rfl
  rw [answered, hne, hl]
  rfl

theorem answered_none (h : fragments keys c (l :: ls) = []) : answered keys c (l :: ls) = [] := by
  rw [answered, h]
  rfl

theorem accepts_of_contained {m : ColumnLeaf} (ha : a.asSequence ≠ none) (hm : m.kind = .within)
    (h : ∀ e ∈ m.operand.asSequence.getD [m.operand],
      ∃ item ∈ a.coerce.elements, item.looseEq e.coerce = true) : m.accepts a = true := by
  rw [accepts_collection_iff ha hm]
  intro want hwant
  by_cases hoperand : m.operand.asSequence = none
  · rw [asSequence_coerce_eq_none.mpr hoperand, Option.getD_none, List.mem_singleton] at hwant
    rw [hoperand, Option.getD_none] at h
    rw [hwant]
    exact h _ (List.mem_singleton_self _)
  · rw [getD_asSequence (mt asSequence_coerce_eq_none.mp hoperand)] at hwant
    rw [getD_asSequence hoperand] at h
    obtain ⟨e, he, rfl⟩ := exists_of_mem_elements_coerce hwant
    exact h e he

theorem stands_of_kind (heq : l.kind ≠ .compare .eq) (hwithin : l.kind ≠ .within) :
    Stands keys c a (l :: ls) :=
  fun _ => ⟨fun h => absurd h heq, fun h => absurd h hwithin⟩

theorem stands_equality (hagree : ∀ m ∈ ls, m.kind = l.kind) (hl : l.kind = .compare .eq)
    (haccept : ∀ f ∈ fragments keys c (l :: ls), f.accepts a = true) :
    (∀ m ∈ answered keys c (l :: ls), m.accepts a = true) ↔ Stands keys c a (l :: ls) := by
  have hfirst := (accepted_equality hagree hl).mp haccept
  have hverdict : ∀ m ∈ l :: ls, m.accepts a = a.coerce.looseEq m.operand.coerce := by
    intro m hm
    rw [accepts, kind_of_agreeing hagree hl m hm]
    rfl
  rw [answered_equality hagree hl]
  constructor
  · intro h _
    refine ⟨fun _ m hm hloose => ?_, fun hwithin => ?_⟩
    · rw [← hverdict m (List.mem_cons_of_mem l hm)]
      exact h m (List.mem_filter.mpr ⟨List.mem_cons_of_mem l hm, hloose⟩)
    · rw [hl] at hwithin
      contradiction
  · intro h m hm
    obtain ⟨hm, hloose⟩ := List.mem_filter.mp hm
    rw [hverdict m hm]
    rcases List.mem_cons.mp hm with rfl | hm
    · exact hfirst
    · exact (h hagree).1 hl m hm hloose

theorem stands_membership (hagree : ∀ m ∈ ls, m.kind = l.kind) (hl : l.kind = .within)
    (hc : keys.isCollection c = false) (ha : a.asSequence = none) :
    (∀ m ∈ answered keys c (l :: ls), m.accepts a = true) ↔ Stands keys c a (l :: ls) := by
  have hne : l.kind ≠ .compare .eq := by rw [hl]; exact nofun
  have hfragments := fragments_membership hagree hl hc
  by_cases hshared : intersection ((l :: ls).map fun m => m.operand.elements) = []
  · rw [hshared] at hfragments
    rw [answered_none hfragments]
    refine iff_of_true (List.forall_mem_nil _) fun _ => ⟨fun h => absurd h hne, ?_⟩
    exact fun _ _ h => absurd hshared h
  · have hsome : fragments keys c (l :: ls) ≠ [] := by
      rw [hfragments]
      exact mt oneOf_eq_nil.mp hshared
    have hleaves : (∀ m ∈ l :: ls, m.accepts a = true) ↔
        ∀ m ∈ l :: ls, ∃ r ∈ m.operand.coerce.elements, a.coerce.looseEq r = true := by
      apply forall₂_congr
      intro m hm
      have hkind := kind_of_agreeing hagree hl m hm
      exact accepts_scalar_iff ha hkind (mt (intersection_operands_eq_nil hm) hshared)
    rw [answered_agreeing hne hsome, hleaves]
    constructor
    · exact fun h _ => ⟨fun heq => absurd heq hne, fun _ _ _ => h⟩
    · exact fun h => (h hagree).2 hl hc hshared

theorem answered_accept_iff (haccept : ∀ f ∈ fragments keys c (l :: ls), f.accepts a = true)
    (hfit : a.asSequence.isSome = keys.isCollection c) :
    (∀ m ∈ answered keys c (l :: ls), m.accepts a = true) ↔ Stands keys c a (l :: ls) := by
  by_cases hagree : ∀ m ∈ ls, m.kind = l.kind
  · cases hl : l.kind with
    | compare op =>
      by_cases hop : op = .eq
      · subst hop
        exact stands_equality hagree hl haccept
      · have hall := (accepted_range hagree hl hop).mp haccept
        refine iff_of_true (fun m hm => hall m (mem_of_mem_answered hm)) (stands_of_kind ?_ ?_)
        · rw [hl]
          simpa using hop
        · rw [hl]
          simp
    | within =>
      cases hc : keys.isCollection c with
      | false => exact stands_membership hagree hl hc (by simpa using hfit.trans hc)
      | true =>
        have ha : a.asSequence ≠ none := Option.isSome_iff_ne_none.mp (hfit.trans hc)
        have hall := (accepted_containment hagree hl hc).mp haccept
        refine iff_of_true (fun m hm => ?_) fun _ => ⟨fun heq => ?_, fun _ hscalar => ?_⟩
        · have hm := mem_of_mem_answered hm
          exact accepts_of_contained ha (kind_of_agreeing hagree hl m hm) (hall m hm)
        · rw [hl] at heq
          contradiction
        · rw [hc] at hscalar
          contradiction
    | notEqual | notWithin =>
      have hnone : fragments keys c (l :: ls) = [] := by rw [fragments, if_pos hagree, hl]
      rw [answered_none hnone]
      refine iff_of_true (List.forall_mem_nil _) (stands_of_kind ?_ ?_) <;> rw [hl] <;> simp
  · rw [answered_none (fragments_differing hagree)]
    exact iff_of_true (List.forall_mem_nil _) fun h => absurd h hagree

structure Comparable (keys : KeyLayout) (c : String) (ls : List ColumnLeaf) : Prop where
  equalities : (∀ m ∈ ls, m.kind = .compare .eq) → Interchangeable (ls.map operand)
  memberships : (∀ m ∈ ls, m.kind = .within) → MembershipsComparable keys c ls

theorem comparable_of_plain
    (hequalities : ∀ m ∈ ls, m.kind = .compare .eq → m.operand.isPlain = true)
    (hmemberships : ∀ m ∈ ls, ∀ e ∈ m.operand.elements, e.isPlain = true) :
    Comparable keys c ls where
  equalities hkind := by
    apply interchangeable_of_plain
    rw [List.forall_mem_map]
    exact fun m hm => hequalities m hm (hkind m hm)
  memberships _ := membershipsComparable_of_plain hmemberships

theorem exists_operand_element {e : Value} {m : ColumnLeaf}
    (hvalues : Interchangeable (allElements (l :: ls)))
    (he : e ∈ intersection ((l :: ls).map fun m => m.operand.elements))
    (hloose : a.coerce.looseEq e.coerce = true) (hm : m ∈ l :: ls) :
    ∃ o ∈ m.operand.elements, a.coerce.looseEq o.coerce = true := by
  obtain ⟨hfirst, hothers⟩ := of_mem_intersection he
  rcases List.mem_cons.mp hm with rfl | hmem
  · exact ⟨e, hfirst, hloose⟩
  · obtain ⟨o, ho, heq⟩ := hothers _ (List.mem_map_of_mem hmem)
    have hevalue : e ∈ allElements (l :: ls) := mem_allElements List.mem_cons_self hfirst
    have hovalue := mem_allElements hm ho
    rw [hvalues.coerced e hevalue o hovalue] at heq
    exact ⟨o, ho, looseEq_trans _ (.inr (hvalues.exact o hovalue)) hloose heq⟩

theorem exists_coerced_element {o : Value} {m : ColumnLeaf} (ha : a.asSequence = none)
    (hkept : m.operand.KeepsElements) (hexact : ∀ e ∈ m.operand.elements, e.coerce.isExact = true)
    (ho : o ∈ m.operand.elements) (hloose : a.coerce.looseEq o.coerce = true) :
    ∃ r ∈ m.operand.coerce.elements, a.coerce.looseEq r = true := by
  obtain ⟨r, hr, heq⟩ := hkept o ho
  refine ⟨r, hr, ?_⟩
  rcases heq with rfl | heq
  · exact hloose
  · have hscalar := asSequence_of_looseEq (asSequence_coerce_eq_none.mpr ha) hloose
    rw [← looseEq_comm r hscalar] at heq
    obtain ⟨e, he, rfl⟩ := exists_of_mem_elements_coerce hr
    exact looseEq_trans _ (.inr (hexact e he)) hloose heq

theorem stands_of_comparable (haccept : ∀ f ∈ fragments keys c (l :: ls), f.accepts a = true)
    (hfit : a.asSequence.isSome = keys.isCollection c) (h : Comparable keys c (l :: ls)) :
    Stands keys c a (l :: ls) := by
  intro hagree
  constructor
  · intro hl m hm hloose
    have hvalues := h.equalities (kind_of_agreeing hagree hl)
    have hmem := List.mem_map_of_mem (f := operand) (List.mem_cons_of_mem l hm)
    rw [hvalues.coerced _ List.mem_cons_self _ hmem] at hloose
    have hfirst := (accepted_equality hagree hl).mp haccept
    exact looseEq_trans _ (.inr (hvalues.exact _ hmem)) hfirst hloose
  · intro hl hc hshared m hm
    have ha : a.asSequence = none := by simpa using hfit.trans hc
    obtain ⟨hintersected, hkept, hexact⟩ := h.memberships (kind_of_agreeing hagree hl)
    obtain ⟨e, he, hloose⟩ := ((accepted_membership hagree hl hc).mp haccept).resolve_left hshared
    obtain ⟨o, ho, hother⟩ := exists_operand_element (hintersected hc) he hloose hm
    exact exists_coerced_element ha (hkept m hm) (hexact m hm) ho hother

end ColumnLeaf

namespace Query

open ColumnLeaf

theorem answered_hold_iff {keys : KeyLayout} {c : String} {l : ColumnLeaf} {ls : List ColumnLeaf}
    {row : Row} (hfit : row.Fits keys) (hcolumn : ∀ m ∈ l :: ls, m.column = c)
    (hfragments : ∀ f ∈ fragments keys c (l :: ls), f.holds row = true) :
    (∀ m ∈ answered keys c (l :: ls), m.holds row = true) ↔
      ∀ a, row.get? c = some a → Stands keys c a (l :: ls) := by
  cases ha : row.get? c with
  | none =>
    -- a row without the column passes no fragment, so there are none
    have hnone : fragments keys c (l :: ls) = [] := by
      rw [List.eq_nil_iff_forall_not_mem]
      intro f hf
      have hholds := hfragments f hf
      rw [Fragment.holds, column_of_mem_fragments hf, ha] at hholds
      contradiction
    rw [answered_none hnone]
    exact iff_of_true (List.forall_mem_nil _) fun _ h => absurd h.symm (Option.some_ne_none _)
  | some a =>
    have hverdict : (∀ m ∈ answered keys c (l :: ls), m.holds row = true) ↔
        ∀ m ∈ answered keys c (l :: ls), m.accepts a = true := by
      apply forall₂_congr
      intro m hm
      rw [ColumnLeaf.holds, hcolumn m (mem_of_mem_answered hm), ha, Option.any_some]
    rw [hverdict, answered_accept_iff ((hold_fragments ha).mp hfragments) (hfit c a ha)]
    simp

/-- A row that passes the fragments and matches the residual query matches the query just when what
was left out stands on every column, and it does that whenever the operands can be compared. -/
theorem plan_admits {q b : Query} {keys : KeyLayout} {naming : Naming} {params : List Value}
    {p : Pushdown} {row : Row} (hp : q.plan keys naming params = .ok p)
    (hb : q.bind params = .ok b) (hfit : row.Fits keys)
    (hfragments : ∀ f ∈ p.fragments, f.holds row = true)
    (hresidual : row.Matches naming p.residual) :
    (row.Matches naming b ↔ ∀ c ∈ b.testedColumns keys naming, ∀ a, row.get? c = some a →
        Stands keys c a (b.testsOn keys naming c)) ∧
      ((∀ c ∈ b.testedColumns keys naming, Comparable keys c (b.testsOn keys naming c)) →
        row.Matches naming b) := by
  obtain ⟨b', hb', hsplit, hpushed, hreduced⟩ := plan_eq_ok hp
  obtain rfl : b' = b := Except.ok.inj (hb'.symm.trans hb)
  rw [hsplit, List.forall_mem_flatMap] at hfragments
  have hmatches : row.Matches naming b' ↔ ∀ c ∈ b'.testedColumns keys naming, ∀ a,
      row.get? c = some a → Stands keys c a (b'.testsOn keys naming c) := by
    rw [Row.matches_iff hpushed hreduced, and_iff_left hresidual, answers, List.forall_mem_flatMap]
    apply forall₂_congr
    intro c hc
    obtain ⟨l, ls, hls⟩ := List.exists_cons_of_ne_nil (testsOn_ne_nil hc)
    have hcolumn : ∀ m ∈ l :: ls, m.column = c := fun m hm => (mem_testsOn.mp (hls ▸ hm)).2
    have hc := hfragments c hc
    rw [hls] at hc ⊢
    exact answered_hold_iff hfit hcolumn hc
  refine ⟨hmatches, fun hcomparable => hmatches.mpr ?_⟩
  intro c hc a ha
  obtain ⟨l, ls, hls⟩ := List.exists_cons_of_ne_nil (testsOn_ne_nil hc)
  have haccept := (hold_fragments ha).mp (hfragments c hc)
  have h := hcomparable c hc
  rw [hls] at haccept h ⊢
  exact stands_of_comparable haccept (hfit c a ha) h

def repeated : Query :=
  { resource := "user"
    filter := [
      .test ⟨"age", .compare .eq, .value (.int 7)⟩,
      .test ⟨"age", .compare .eq, .parameter 0⟩,
      .test ⟨"name", .notEqual, .value (.text "A")⟩] }

def repeatedKeys : KeyLayout := { partition := ["age"] }

def repeatedRow : Row := ⟨[("age", .int 7), ("name", .text "B")]⟩

theorem plan_admits_repeatedRow : ∃ p b,
    repeated.plan repeatedKeys .identity [.int 7] = .ok p ∧ repeated.bind [.int 7] = .ok b ∧
      p.pushed = [0, 1] ∧ repeatedRow.Fits repeatedKeys ∧
      (∀ f ∈ p.fragments, f.holds repeatedRow = true) ∧
      repeatedRow.Matches .identity p.residual ∧ repeatedRow.Matches .identity b := by
  have hplan : ∃ p b, repeated.plan repeatedKeys .identity [.int 7] = .ok p ∧
      repeated.bind [.int 7] = .ok b ∧ p.pushed = [0, 1] ∧
      (∀ f ∈ p.fragments, f.holds repeatedRow = true) ∧
      repeatedRow.Matches .identity p.residual ∧
      (∀ c ∈ b.testedColumns repeatedKeys .identity, ∀ m ∈ b.testsOn repeatedKeys .identity c,
        m.kind = .compare .eq → m.operand.isPlain = true) ∧
      ∀ c ∈ b.testedColumns repeatedKeys .identity, ∀ m ∈ b.testsOn repeatedKeys .identity c,
        ∀ e ∈ m.operand.elements, e.isPlain = true :=
    ⟨_, _, rfl, rfl, rfl, by decide, rfl, by decide, by decide⟩
  obtain ⟨p, b, hp, hb, hpushed, hfragments, hresidual, hequalities, hmemberships⟩ := hplan
  have hfit : repeatedRow.Fits repeatedKeys := Row.fits_of_columns (by decide)
  refine ⟨p, b, hp, hb, hpushed, hfit, hfragments, hresidual, ?_⟩
  apply (plan_admits hp hb hfit hfragments hresidual).2
  exact fun c hc => comparable_of_plain (hequalities c hc) (hmemberships c hc)

def twiceTagged : Query :=
  { resource := "user"
    filter := [
      .test ⟨"tags", .compare .eq, .value (.set [.text "a", .text "a"])⟩,
      .test ⟨"tags", .compare .eq, .value (.set [.text "a", .text "b"])⟩] }

/-- A set with a repetition is loosely equal to a larger one before coercion, and the second test
is taken for answered. -/
theorem plan_admits_extra : ∃ p b row,
    twiceTagged.plan { indexed := ["tags"], collections := ["tags"] } .identity [] = .ok p ∧
      twiceTagged.bind [] = .ok b ∧ row.Fits { indexed := ["tags"], collections := ["tags"] } ∧
      (∀ f ∈ p.fragments, f.holds row = true) ∧ row.Matches .identity p.residual ∧
      ¬row.Matches .identity b :=
  ⟨_, _, ⟨[("tags", .set [.text "a"])]⟩, rfl, rfl, Row.fits_of_columns (by decide), by decide,
    rfl, nofun⟩

end Query

end WideColumn

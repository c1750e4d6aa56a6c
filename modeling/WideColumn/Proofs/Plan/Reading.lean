import WideColumn.Materialize
import WideColumn.Proofs.Plan.PerColumn

namespace WideColumn

namespace Value

theorem getD_asSequence {v : Value} (h : v.asSequence ≠ none) (vs : List Value) :
    v.asSequence.getD vs = v.elements := by
  obtain ⟨items, hitems⟩ := Option.ne_none_iff_exists'.mp h
  simp [elements, hitems]

theorem asSequence_ne_none {v e : Value} (h : e ∈ v.elements) : v.asSequence ≠ none := by
  intro hnone
  simp [elements, hnone] at h

theorem isWithin_scalar {a v : Value} (ha : a.asSequence = none) (hv : v.asSequence ≠ none) :
    a.isWithin v = true ↔ ∃ r ∈ v.elements, a.looseEq r = true := by
  obtain ⟨items, hitems⟩ := Option.ne_none_iff_exists'.mp hv
  simp [isWithin, elements, ha, hitems]

theorem isWithin_collection {a v : Value} (ha : a.asSequence ≠ none) :
    a.isWithin v = true ↔
      ∀ want ∈ v.asSequence.getD [v], ∃ item ∈ a.elements, item.looseEq want = true := by
  obtain ⟨items, hitems⟩ := Option.ne_none_iff_exists'.mp ha
  cases hv : v.asSequence <;> simp [isWithin, elements, hitems, hv]

end Value

namespace Fragment

def accepts (a : Value) : Fragment → Bool
  | compare _ op v => op.holds a.coerce v.coerce
  | contains _ v => a.coerce.elements.any fun item => item.looseEq v.coerce
  | oneOf _ vs => vs.any fun v => a.coerce.looseEq v.coerce

/-- A row without the column passes no condition on it. -/
def holds (row : Row) (f : Fragment) : Bool :=
  (row.get? f.column).any f.accepts

end Fragment

namespace Row

/-- The columns flagged as collections hold lists and sets, and no other column does. -/
def Fits (keys : KeyLayout) (row : Row) : Prop :=
  ∀ c a, row.get? c = some a → a.asSequence.isSome = keys.isCollection c

def Matches (naming : Naming) (q : Query) (row : Row) : Prop :=
  Predicate.allHold (.ofRow naming row) q.filter = .ok true

end Row

namespace ColumnLeaf

open WideColumn.Membership (intersection intersection_eq_nil)

def accepts (a : Value) (l : ColumnLeaf) : Bool :=
  l.kind.holds a.coerce l.operand.coerce

def holds (row : Row) (l : ColumnLeaf) : Bool :=
  (row.get? l.column).any fun a => l.accepts a

theorem holds_ofLeaf? {keys : KeyLayout} {naming : Naming} {leaf : LeafId × FieldTest}
    {l : ColumnLeaf} (h : ofLeaf? keys naming leaf = some l) (row : Row) :
    leaf.2.holds (.ofRow naming row) = .ok (l.holds row) := by
  obtain ⟨hoperand, hl⟩ := ofLeaf?_eq_some h
  rw [FieldTest.holds, hoperand, hl]
  simp only [holds, accepts, FieldSource.ofRow]
  cases row.get? (naming.normalize leaf.2.field) <;> rfl

variable {keys : KeyLayout} {c : String} {l : ColumnLeaf} {ls : List ColumnLeaf} {a : Value}

theorem accepts_within {m : ColumnLeaf} (hm : m.kind = .within) :
    m.accepts a = a.coerce.isWithin m.operand.coerce := by
  rw [accepts, hm]
  rfl

theorem accepts_scalar_iff {m : ColumnLeaf} (ha : a.asSequence = none) (hm : m.kind = .within)
    (hoperand : m.operand.asSequence ≠ none) :
    m.accepts a = true ↔ ∃ r ∈ m.operand.coerce.elements, a.coerce.looseEq r = true := by
  rw [accepts_within hm]
  exact Value.isWithin_scalar (Value.asSequence_coerce_eq_none.mpr ha)
    (mt Value.asSequence_coerce_eq_none.mp hoperand)

theorem accepts_collection_iff {m : ColumnLeaf} (ha : a.asSequence ≠ none)
    (hm : m.kind = .within) :
    m.accepts a = true ↔ ∀ want ∈ m.operand.coerce.asSequence.getD [m.operand.coerce],
      ∃ item ∈ a.coerce.elements, item.looseEq want = true := by
  rw [accepts_within hm]
  exact Value.isWithin_collection (mt Value.asSequence_coerce_eq_none.mp ha)

theorem oneOf_eq_nil {vs : List Value} : oneOf c vs = [] ↔ vs = [] := by
  cases vs <;> simp [oneOf]

theorem eq_of_mem_oneOf {vs : List Value} {f : Fragment} (h : f ∈ oneOf c vs) :
    f = .oneOf c vs := by
  cases vs with
  | nil => contradiction
  | cons v vs => exact List.mem_singleton.mp h

theorem column_of_mem_fragments {f : Fragment} (h : f ∈ fragments keys c ls) : f.column = c := by
  cases ls with
  | nil => contradiction
  | cons l ls =>
    rw [fragments] at h
    split at h
    · split at h
      · rw [List.mem_singleton.mp h]
        rfl
      · obtain ⟨m, -, rfl⟩ := List.mem_map.mp h
        rfl
      · split at h
        · obtain ⟨m, -, hm⟩ := List.mem_flatMap.mp h
          obtain ⟨e, -, rfl⟩ := List.mem_map.mp hm
          rfl
        · rw [eq_of_mem_oneOf h]
          rfl
      · contradiction
      · contradiction
    · contradiction

theorem hold_fragments {row : Row} (ha : row.get? c = some a) :
    (∀ f ∈ fragments keys c ls, f.holds row = true) ↔
      ∀ f ∈ fragments keys c ls, f.accepts a = true := by
  apply forall₂_congr
  intro f hf
  rw [Fragment.holds, column_of_mem_fragments hf, ha, Option.any_some]

theorem kind_of_agreeing {kind : TestKind} (h : ∀ m ∈ ls, m.kind = l.kind) (hl : l.kind = kind) :
    ∀ m ∈ l :: ls, m.kind = kind := by
  intro m hm
  rcases List.mem_cons.mp hm with rfl | hm
  · exact hl
  · exact (h m hm).trans hl

theorem intersection_operands_eq_nil {m : ColumnLeaf} (hm : m ∈ ls)
    (h : m.operand.asSequence = none) :
    intersection (ls.map fun m => m.operand.elements) = [] := by
  have hempty : m.operand.elements = [] := by simp [Value.elements, h]
  apply intersection_eq_nil
  rw [← hempty]
  exact List.mem_map_of_mem (f := fun m => m.operand.elements) hm

theorem fragments_differing (h : ¬∀ m ∈ ls, m.kind = l.kind) : fragments keys c (l :: ls) = [] :=
  if_neg h

theorem accepted_equality (h : ∀ m ∈ ls, m.kind = l.kind) (hl : l.kind = .compare .eq) :
    (∀ f ∈ fragments keys c (l :: ls), f.accepts a = true) ↔
      a.coerce.looseEq l.operand.coerce = true := by
  rw [fragments, if_pos h, hl]
  simp [Fragment.accepts, Comparison.holds]

theorem accepted_range {op : Comparison} (h : ∀ m ∈ ls, m.kind = l.kind)
    (hl : l.kind = .compare op) (hop : op ≠ .eq) :
    (∀ f ∈ fragments keys c (l :: ls), f.accepts a = true) ↔
      ∀ m ∈ l :: ls, m.accepts a = true := by
  have hkind : ∀ m ∈ l :: ls, m.kind = .compare op := by
    intro m hm
    rcases List.mem_cons.mp hm with rfl | hm
    · exact hl
    · exact (h m hm).trans hl
  have hfragments : fragments keys c (l :: ls) =
      (l :: ls).map fun m => .compare c op m.operand := by
    rw [fragments, if_pos h, hl]
    cases op <;> first | rfl | contradiction
  rw [hfragments, List.forall_mem_map]
  apply forall₂_congr
  intro m hm
  rw [accepts, hkind m hm]
  rfl

theorem accepted_containment (h : ∀ m ∈ ls, m.kind = l.kind) (hl : l.kind = .within)
    (hc : keys.isCollection c = true) :
    (∀ f ∈ fragments keys c (l :: ls), f.accepts a = true) ↔
      ∀ m ∈ l :: ls, ∀ e ∈ m.operand.asSequence.getD [m.operand],
        ∃ item ∈ a.coerce.elements, item.looseEq e.coerce = true := by
  rw [fragments, if_pos h, hl]
  simp only [hc, if_true, List.forall_mem_flatMap, List.forall_mem_map, Fragment.accepts,
    List.any_eq_true]

theorem fragments_membership (h : ∀ m ∈ ls, m.kind = l.kind) (hl : l.kind = .within)
    (hc : keys.isCollection c = false) : fragments keys c (l :: ls) =
      oneOf c (intersection ((l :: ls).map fun m => m.operand.elements)) := by
  rw [fragments, if_pos h, hl]
  simp only [hc, Bool.false_eq_true, if_false]

theorem accepted_membership (h : ∀ m ∈ ls, m.kind = l.kind) (hl : l.kind = .within)
    (hc : keys.isCollection c = false) :
    (∀ f ∈ fragments keys c (l :: ls), f.accepts a = true) ↔
      intersection ((l :: ls).map fun m => m.operand.elements) = [] ∨
        ∃ e ∈ intersection ((l :: ls).map fun m => m.operand.elements),
          a.coerce.looseEq e.coerce = true := by
  rw [fragments_membership h hl hc]
  generalize intersection ((l :: ls).map fun m => m.operand.elements) = vs
  cases vs <;> simp [oneOf, Fragment.accepts]

def allElements (ls : List ColumnLeaf) : List Value :=
  ls.flatMap fun m => m.operand.elements

theorem mem_allElements {m : ColumnLeaf} {e : Value} (hm : m ∈ ls) (he : e ∈ m.operand.elements) :
    e ∈ allElements ls :=
  List.mem_flatMap.mpr ⟨m, hm, he⟩

structure MembershipsComparable (keys : KeyLayout) (c : String) (ls : List ColumnLeaf) : Prop where
  intersected : keys.isCollection c = false → Value.Interchangeable (allElements ls)
  kept : ∀ m ∈ ls, m.operand.KeepsElements
  exact : ∀ m ∈ ls, ∀ e ∈ m.operand.elements, e.coerce.isExact = true

theorem membershipsComparable_of_plain
    (h : ∀ m ∈ ls, ∀ e ∈ m.operand.elements, e.isPlain = true) :
    MembershipsComparable keys c ls where
  intersected _ := by
    apply Value.interchangeable_of_plain
    intro e he
    obtain ⟨m, hm, he⟩ := List.mem_flatMap.mp he
    exact h m hm e he
  kept m hm := Value.keepsElements_of_scalars fun e he => (Value.of_isPlain (h m hm e he)).2.2
  exact m hm e he := by
    obtain ⟨hcoerce, hexact, -⟩ := Value.of_isPlain (h m hm e he)
    rw [hcoerce]
    exact hexact

end ColumnLeaf

namespace Row

variable {keys : KeyLayout} {naming : Naming} {row : Row} {b : Query} {p : Pushdown}

theorem fits_of_columns
    (h : ∀ e ∈ row.columns, e.2.asSequence.isSome = keys.isCollection e.1) : row.Fits keys := by
  intro c a ha
  obtain ⟨before, rest, hcolumns, -⟩ := List.lookup_eq_some_iff.mp ha
  have hmem : (c, a) ∈ row.columns := by simp [hcolumns]
  exact h (c, a) hmem

theorem Matches.leaf_holds (h : row.Matches naming b) {leaf : LeafId × FieldTest}
    (hleaf : leaf ∈ b.conjunctiveLeaves) : leaf.2.holds (.ofRow naming row) = .ok true := by
  have hpruned := b.reduce_pruned (b.conjunctiveLeaves.map Prod.fst)
  exact (hpruned.holds.mp h).1 leaf hleaf (List.mem_map_of_mem hleaf)

theorem Matches.holds (h : row.Matches naming b) {l : ColumnLeaf}
    (hl : l ∈ ColumnLeaf.ofQuery keys naming b) : l.holds row = true := by
  obtain ⟨leaf, hleaf, hofLeaf⟩ := ColumnLeaf.mem_ofQuery.mp hl
  have hok := h.leaf_holds hleaf
  rw [ColumnLeaf.holds_ofLeaf? hofLeaf] at hok
  exact Except.ok.inj hok

theorem matches_iff (hpushed : p.pushed = (b.conjunctiveLeaves.map Prod.fst).filter
      ((b.answers keys naming).map ColumnLeaf.position).contains)
    (hresidual : p.residual = b.reduce p.pushed) :
    row.Matches naming b ↔
      (∀ l ∈ b.answers keys naming, l.holds row = true) ∧ row.Matches naming p.residual := by
  rw [Matches, (b.reduce_pruned p.pushed).holds, Matches, hresidual, and_congr_left_iff]
  intro _
  constructor
  · intro h l hl
    obtain ⟨leaf, hleaf, hofLeaf⟩ := Query.leaf_of_mem_answers hl
    have hmem : leaf.1 ∈ p.pushed := by
      rw [hpushed, Query.mem_pushed]
      exact ⟨l, hl, ColumnLeaf.position_of_ofLeaf? hofLeaf⟩
    have hok := h leaf hleaf hmem
    rw [ColumnLeaf.holds_ofLeaf? hofLeaf] at hok
    exact Except.ok.inj hok
  · intro h leaf hleaf hmem
    rw [hpushed, Query.mem_pushed] at hmem
    obtain ⟨l, hl, hposition⟩ := hmem
    obtain ⟨other, hother, hofLeaf⟩ := Query.leaf_of_mem_answers hl
    -- a position belongs to one leaf
    have hsame : other.2 = leaf.2 := by
      have hplace := b.conjunctiveLeaves_place hother
      rw [← ColumnLeaf.position_of_ofLeaf? hofLeaf, hposition,
        b.conjunctiveLeaves_place hleaf] at hplace
      exact (Option.some.inj hplace).symm
    rw [← hsame, ColumnLeaf.holds_ofLeaf? hofLeaf, h l hl]

end Row

end WideColumn

import WideColumn.Proofs.Value.CanonicalOrder

namespace WideColumn.Value

theorem numbersIn_number {N : Value → Prop} {n : Value} (hn : N n)
    (hcollection : ¬n.isCollection = true) : NumbersIn N n := by
  intro m hm _
  rw [within_scalar hcollection] at hm
  exact hm ▸ hn

theorem keepsIntegersApart_of_transitive {N : Value → Prop}
    (h : ∀ a b c, NumbersIn N a → NumbersIn N b → NumbersIn N c →
      (canonicalCompare a b).isLE = true → (canonicalCompare b c).isLE = true →
        (canonicalCompare a c).isLE = true) : KeepsIntegersApart N := by
  rintro i j x hi hj hx rfl hshared
  have hbelow (k : Int64) (hk : Double.ofInt64 k = .ofInt64 i) :
      (canonicalCompare (int k) (double (.ofInt64 i))).isLE = true ∧
        (canonicalCompare (double (.ofInt64 i)) (int k)).isLE = true := by
    simp only [canonicalCompare, hk, Double.totalCompare, Std.ReflOrd.compare_self]
    exact ⟨rfl, rfl⟩
  have hi' := numbersIn_number hi Bool.false_ne_true
  have hj' := numbersIn_number hj Bool.false_ne_true
  have hx' := numbersIn_number hx Bool.false_ne_true
  have hij : (compare i j).isLE = true := h _ _ _ hi' hx' hj' (hbelow i rfl).1 (hbelow j hshared).2
  have hji : (compare j i).isLE = true := h _ _ _ hj' hx' hi' (hbelow j hshared).1 (hbelow i rfl).2
  exact Std.LawfulEqOrd.eq_of_compare (Std.OrientedCmp.isLE_antisymm hij hji)

theorem numbersIn_of_mem {v : Value} {vs : List Value} (h : v ∈ vs) :
    NumbersIn (list vs).IsNumberOf v :=
  fun _ hn hnumber => ⟨hnumber, hn.trans (.of_part h)⟩

/-- The canonical order is antisymmetric. It is transitive on all the values that some numbers make
up if and only if no double among these is the nearest one of two integers. Three values are ordered
totally as soon as that is so of the numbers within them. -/
theorem canonicalCompare_transitive_iff (N : Value → Prop) :
    (∀ a b : Value, canonicalCompare b a = (canonicalCompare a b).swap) ∧
      ((∀ a b c, NumbersIn N a → NumbersIn N b → NumbersIn N c →
          (canonicalCompare a b).isLE = true → (canonicalCompare b c).isLE = true →
            (canonicalCompare a c).isLE = true) ↔
        KeepsIntegersApart N) ∧
      ∀ a b c : Value, KeepsIntegersApart (list [a, b, c]).IsNumberOf →
        (canonicalCompare a b).isLE = true → (canonicalCompare b c).isLE = true →
          canonicalCompare a c = (canonicalCompare a b).then (canonicalCompare b c) := by
  refine ⟨fun a b => canonicalCompare_swap b a, ?_, fun a b c h => ?_⟩
  · refine ⟨keepsIntegersApart_of_transitive, fun h a b c ha hb hc hab hbc => ?_⟩
    rw [h.composesOn a b c ha hb hc hab hbc, Ordering.isLE_then_iff_and]
    exact ⟨hab, .inr hbc⟩
  · have ha : a ∈ [a, b, c] := by simp
    have hb : b ∈ [a, b, c] := by simp
    have hc : c ∈ [a, b, c] := by simp
    exact h.composesOn a b c (numbersIn_of_mem ha) (numbersIn_of_mem hb) (numbersIn_of_mem hc)

def spacedNumbers : Value :=
  list [list [int 9007199254740993], list [double ⟨0x4340000000000001⟩],
    list [int 9007199254740995]]

theorem keepsIntegersApart_spacedNumbers : KeepsIntegersApart spacedNumbers.IsNumberOf := by
  rintro i j x ⟨-, hi⟩ - ⟨-, hx⟩ hix -
  have hints : i = 9007199254740993 ∨ i = 9007199254740995 := by
    simpa [spacedNumbers, within_list, within_scalar, isCollection] using hi
  obtain rfl : x = ⟨0x4340000000000001⟩ := by
    simpa [spacedNumbers, within_list, within_scalar, isCollection] using hx
  rcases hints with rfl | rfl <;> exact absurd hix (by decide)

theorem canonicalCompare_apart :
    KeepsIntegersApart spacedNumbers.IsNumberOf ∧
      canonicalCompare (list [int 9007199254740993]) (list [double ⟨0x4340000000000001⟩]) = .lt ∧
      canonicalCompare (list [double ⟨0x4340000000000001⟩]) (list [int 9007199254740995]) = .lt ∧
      canonicalCompare (list [int 9007199254740993]) (list [int 9007199254740995]) = .lt := by
  have hlow : canonicalCompare (list [int 9007199254740993])
      (list [double ⟨0x4340000000000001⟩]) = .lt := by decide
  have hhigh : canonicalCompare (list [double ⟨0x4340000000000001⟩])
      (list [int 9007199254740995]) = .lt := by decide
  obtain ⟨-, -, htotal⟩ := canonicalCompare_transitive_iff spacedNumbers.IsNumberOf
  refine ⟨keepsIntegersApart_spacedNumbers, hlow, hhigh, ?_⟩
  rw [htotal _ _ _ keepsIntegersApart_spacedNumbers (hlow ▸ rfl) (hhigh ▸ rfl), hlow]
  rfl

/-- The double is level with both integers, of which the first is above the second. -/
theorem not_canonicalCompare_isLE_trans :
    ¬∀ a b c : Value, (canonicalCompare a b).isLE = true → (canonicalCompare b c).isLE = true →
      (canonicalCompare a c).isLE = true := by
  intro h
  have hdown := h (int 9007199254740993) (double ⟨0x4340000000000000⟩) (int 9007199254740992)
    (by decide) (by decide)
  exact absurd hdown (by decide)

end WideColumn.Value

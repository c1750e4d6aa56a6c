import Mathlib.Tactic.NormNum
import WideColumn.Number.Double

namespace WideColumn.Double

theorem roundHalfEven_bounds (n unit : Nat) :
    n / unit ≤ roundHalfEven n unit ∧ roundHalfEven n unit ≤ n / unit + 1 := by
  simp only [roundHalfEven]
  split <;> omega

theorem scale_bounds {n k d : Nat} (hlow : 2 ^ k ≤ n) (hhigh : n < 2 ^ (k + 1)) (hd : k + d = 52) :
    exponentBit ≤ n * 2 ^ d ∧ n * 2 ^ d < 2 * exponentBit := by
  have hl := Nat.mul_le_mul_right (2 ^ d) hlow
  have hh := Nat.mul_lt_mul_of_pos_right hhigh (Nat.two_pow_pos d)
  have he : exponentBit = 2 ^ 52 := by norm_num
  rw [← pow_add, hd, ← he] at hl
  rw [← pow_add, show k + 1 + d = 52 + 1 by omega, pow_succ', ← he] at hh
  exact ⟨hl, hh⟩

theorem quotient_bounds {n k d : Nat} (hlow : 2 ^ k ≤ n) (hhigh : n < 2 ^ (k + 1))
    (hd : k = 52 + d) : exponentBit ≤ n / 2 ^ d ∧ n / 2 ^ d < 2 * exponentBit := by
  have he : exponentBit = 2 ^ 52 := by norm_num
  constructor
  · rw [Nat.le_div_iff_mul_le (Nat.two_pow_pos d), he, ← pow_add, ← hd]
    exact hlow
  · rw [Nat.div_lt_iff_lt_mul (Nat.two_pow_pos d), he, ← pow_succ', ← pow_add]
    rwa [show 52 + 1 + d = k + 1 by omega]

def significandOfNat (n : Nat) : Nat :=
  if n.log2 ≤ 52 then n * Nat.pow 2 (52 - n.log2) else roundHalfEven n (Nat.pow 2 (n.log2 - 52))

theorem magnitudeOfNat_eq {n : Nat} (hn : n ≠ 0) :
    magnitudeOfNat n = (n.log2 + 1022) * exponentBit + significandOfNat n := by
  simp only [magnitudeOfNat, hn, if_false, significandOfNat]

theorem significandOfNat_bounds {n : Nat} (hn : n ≠ 0) :
    exponentBit ≤ significandOfNat n ∧ significandOfNat n ≤ 2 * exponentBit := by
  have hlow := Nat.log2_self_le hn
  have hhigh := Nat.lt_log2_self (n := n)
  rw [significandOfNat]
  split
  · have h := scale_bounds hlow hhigh (Nat.add_sub_cancel' ‹_›)
    exact ⟨h.1, h.2.le⟩
  · obtain ⟨h1, h2⟩ := quotient_bounds hlow hhigh (d := n.log2 - 52) (by omega)
    obtain ⟨h3, h4⟩ := roundHalfEven_bounds n (2 ^ (n.log2 - 52))
    change exponentBit ≤ roundHalfEven n (2 ^ (n.log2 - 52)) ∧
      roundHalfEven n (2 ^ (n.log2 - 52)) ≤ 2 * exponentBit
    omega

theorem significandOfNat_lt {n : Nat} (hn : n ≠ 0) (h : n.log2 ≤ 52) :
    significandOfNat n < 2 * exponentBit := by
  rw [significandOfNat, if_pos h]
  exact (scale_bounds (Nat.log2_self_le hn) Nat.lt_log2_self (Nat.add_sub_cancel' h)).2

theorem magnitudeOfNat_bounds {n : Nat} (hn : n ≠ 0) :
    (n.log2 + 1023) * exponentBit ≤ magnitudeOfNat n ∧
      magnitudeOfNat n ≤ (n.log2 + 1024) * exponentBit := by
  obtain ⟨hlow, hhigh⟩ := significandOfNat_bounds hn
  rw [magnitudeOfNat_eq hn]
  constructor
  · calc (n.log2 + 1023) * exponentBit = (n.log2 + 1022) * exponentBit + exponentBit :=
          Nat.succ_mul _ _
      _ ≤ (n.log2 + 1022) * exponentBit + significandOfNat n := Nat.add_le_add_left hlow _
  · calc (n.log2 + 1022) * exponentBit + significandOfNat n
        ≤ (n.log2 + 1022) * exponentBit + 2 * exponentBit := Nat.add_le_add_left hhigh _
      _ = (n.log2 + 1024) * exponentBit := (Nat.add_mul (n.log2 + 1022) 2 exponentBit).symm

theorem magnitudeOfNat_lt {n : Nat} (hn : n ≠ 0) (h : n.log2 ≤ 52) :
    magnitudeOfNat n < (n.log2 + 1024) * exponentBit := by
  have hs := significandOfNat_lt hn h
  have he := magnitudeOfNat_eq hn
  simp only [exponentBit] at hs he ⊢
  omega

abbrev exactLimit : Nat := 0x20000000000000

theorem log2_le_of_lt {n : Nat} (hn : n ≠ 0) (h : n < exactLimit) : n.log2 ≤ 52 :=
  Nat.lt_succ_iff.mp ((Nat.log2_lt hn).mpr h)

theorem magnitudeOfNat_pos {n : Nat} (hn : n ≠ 0) : 0 < magnitudeOfNat n := by
  have h := (magnitudeOfNat_bounds hn).1
  simp only [exponentBit] at h
  omega

theorem magnitudeOfNat_injective {m n : Nat} (hn : n < exactLimit)
    (h : magnitudeOfNat m = magnitudeOfNat n) : m = n := by
  by_cases hn0 : n = 0
  · by_contra hm
    have hpos := magnitudeOfNat_pos (n := m) (hn0 ▸ hm)
    rw [h, hn0] at hpos
    exact absurd hpos (by decide)
  by_cases hm0 : m = 0
  · have hpos := magnitudeOfNat_pos hn0
    rw [← h, hm0] at hpos
    exact absurd hpos (by decide)
  have hk := log2_le_of_lt hn0 hn
  have hnlt := magnitudeOfNat_lt hn0 hk
  have hnge := (magnitudeOfNat_bounds hn0).1
  have hmge := (magnitudeOfNat_bounds hm0).1
  rcases Nat.lt_trichotomy m.log2 n.log2 with hlt | heq | hgt
  · have hmlt := magnitudeOfNat_lt hm0 (by omega)
    simp only [exponentBit] at hmlt hnge
    omega
  · rw [magnitudeOfNat_eq hm0, magnitudeOfNat_eq hn0, heq, Nat.add_left_cancel_iff,
      significandOfNat, significandOfNat, heq, if_pos hk, if_pos hk] at h
    exact Nat.mul_right_cancel (Nat.two_pow_pos _) h
  · simp only [exponentBit] at hnlt hmge
    omega

theorem magnitudeOfNat_strictMono {m n : Nat} (hn : n ≤ exactLimit) (h : m < n) :
    magnitudeOfNat m < magnitudeOfNat n := by
  have hn0 : n ≠ 0 := by omega
  by_cases hm0 : m = 0
  · rw [hm0]
    exact magnitudeOfNat_pos hn0
  have hm : m.log2 ≤ 52 := log2_le_of_lt hm0 (Nat.lt_of_lt_of_le h hn)
  have hlog : m.log2 ≤ n.log2 :=
    (Nat.le_log2 hn0).mpr ((Nat.log2_self_le hm0).trans h.le)
  rcases hlog.lt_or_eq with hlt | heq
  · have hmlt := magnitudeOfNat_lt hm0 hm
    have hnge := (magnitudeOfNat_bounds hn0).1
    simp only [exponentBit] at hmlt hnge
    omega
  · rw [magnitudeOfNat_eq hm0, magnitudeOfNat_eq hn0, ← heq, significandOfNat, significandOfNat,
      ← heq, if_pos hm, if_pos hm]
    exact Nat.add_lt_add_left (Nat.mul_lt_mul_of_pos_right h (Nat.two_pow_pos _)) _

theorem roundHalfEven_mono {m n : Nat} (unit : Nat) (h : m ≤ n) :
    roundHalfEven m unit ≤ roundHalfEven n unit := by
  have hquotient : m / unit ≤ n / unit := Nat.div_le_div_right h
  rcases hquotient.lt_or_eq with hlt | heq
  · have hm := (roundHalfEven_bounds m unit).2
    have hn := (roundHalfEven_bounds n unit).1
    omega
  · have hm := Nat.div_add_mod m unit
    have hn := Nat.div_add_mod n unit
    rw [heq] at hm
    have hrest : m % unit ≤ n % unit := by omega
    -- of one quotient, what is rounded up has no smaller remainder than what is rounded down
    simp only [roundHalfEven, heq, Bool.or_eq_true, Bool.and_eq_true, decide_eq_true_eq,
      beq_iff_eq]
    split <;> split <;> omega

theorem significandOfNat_mono {m n : Nat} (hlog : m.log2 = n.log2) (h : m ≤ n) :
    significandOfNat m ≤ significandOfNat n := by
  rw [significandOfNat, significandOfNat, hlog]
  split
  · exact Nat.mul_le_mul_right _ h
  · exact roundHalfEven_mono _ h

theorem magnitudeOfNat_mono {m n : Nat} (h : m ≤ n) : magnitudeOfNat m ≤ magnitudeOfNat n := by
  by_cases hm0 : m = 0
  · rw [hm0]
    exact Nat.zero_le _
  have hn0 : n ≠ 0 := by omega
  have hlog : m.log2 ≤ n.log2 :=
    (Nat.le_log2 hn0).mpr ((Nat.log2_self_le hm0).trans h)
  rcases hlog.lt_or_eq with hlt | heq
  · have hm := (magnitudeOfNat_bounds hm0).2
    have hn := (magnitudeOfNat_bounds hn0).1
    simp only [exponentBit] at hm hn
    omega
  · rw [magnitudeOfNat_eq hm0, magnitudeOfNat_eq hn0, heq]
    exact Nat.add_le_add_left (significandOfNat_mono heq h) _

theorem magnitudeOfNat_lt_infinity {n : Nat} (hn : n ≤ signBit) :
    magnitudeOfNat n < infinityMagnitude := by
  by_cases h0 : n = 0
  · rw [h0]
    decide
  have hlog : n.log2 < 64 := (Nat.log2_lt h0).mpr (Nat.lt_of_le_of_lt hn (by decide))
  have hle := (magnitudeOfNat_bounds h0).2
  simp only [exponentBit, infinityMagnitude] at hle ⊢
  omega

section OfInt64

variable (i : Int64)

theorem natAbs_toInt_le : i.toInt.natAbs ≤ signBit := by
  have hlow := i.le_toInt
  have hhigh := i.toInt_lt
  simp only [signBit]
  omega

theorem toNat_bits_ofInt64 : (ofInt64 i).bits.toNat =
    (if i.toInt < 0 then signBit else 0) + magnitudeOfNat i.toInt.natAbs := by
  have h := magnitudeOfNat_lt_infinity (natAbs_toInt_le i)
  simp only [infinityMagnitude] at h
  rw [ofInt64, UInt64.toNat_ofNat', Nat.mod_eq_of_lt]
  simp only [signBit]
  split <;> omega

theorem magnitude_ofInt64 : (ofInt64 i).magnitude = magnitudeOfNat i.toInt.natAbs := by
  have h := magnitudeOfNat_lt_infinity (natAbs_toInt_le i)
  simp only [infinityMagnitude] at h
  rw [magnitude, toNat_bits_ofInt64]
  simp only [signBit]
  split <;> omega

theorem isNegative_ofInt64 : (ofInt64 i).isNegative = decide (i.toInt < 0) := by
  have h := magnitudeOfNat_lt_infinity (natAbs_toInt_le i)
  simp only [infinityMagnitude] at h
  rw [isNegative, toNat_bits_ofInt64]
  simp only [signBit]
  split <;> simp <;> omega

theorem isNaN_ofInt64 : (ofInt64 i).isNaN = false := by
  have h := magnitudeOfNat_lt_infinity (natAbs_toInt_le i)
  rw [isNaN, magnitude_ofInt64, decide_eq_false_iff_not]
  omega

theorem numericKey_ofInt64 : (ofInt64 i).numericKey =
    if i.toInt < 0 then -(magnitudeOfNat i.toInt.natAbs : Int)
    else magnitudeOfNat i.toInt.natAbs := by
  rw [numericKey, magnitude_ofInt64, isNegative_ofInt64]
  simp

theorem totalKey_ofInt64 : (ofInt64 i).totalKey =
    if i.toInt < 0 then -(magnitudeOfNat i.toInt.natAbs : Int) - 1
    else magnitudeOfNat i.toInt.natAbs := by
  rw [totalKey, magnitude_ofInt64, isNegative_ofInt64]
  simp

end OfInt64

theorem eq_of_numericKey_ofInt64 {i j : Int64} (hj : j.toInt.natAbs < exactLimit)
    (h : (ofInt64 i).numericKey = (ofInt64 j).numericKey) : i = j := by
  rw [numericKey_ofInt64, numericKey_ofInt64] at h
  have habs : i.toInt.natAbs = j.toInt.natAbs := by
    apply magnitudeOfNat_injective hj
    split at h <;> split at h <;> omega
  have hpos (k : Int64) (hk : k.toInt < 0) : 0 < magnitudeOfNat k.toInt.natAbs :=
    magnitudeOfNat_pos (by omega)
  apply Int64.toInt_inj.mp
  by_cases hi : i.toInt < 0
  · have hposi := hpos i hi
    rw [if_pos hi] at h
    split at h <;> omega
  · rw [if_neg hi] at h
    split at h
    · have hposj := hpos j ‹_›
      omega
    · omega

theorem totalKey_ofInt64_lt {i j : Int64} (hi : i.toInt.natAbs ≤ exactLimit)
    (hj : j.toInt.natAbs ≤ exactLimit) (h : i < j) :
    (ofInt64 i).totalKey < (ofInt64 j).totalKey := by
  rw [Int64.lt_iff_toInt_lt] at h
  rw [totalKey_ofInt64, totalKey_ofInt64]
  by_cases hj0 : j.toInt < 0
  · have hlt := magnitudeOfNat_strictMono hi (m := j.toInt.natAbs) (by omega)
    rw [if_pos (by omega), if_pos hj0]
    omega
  · by_cases hi0 : i.toInt < 0
    · rw [if_pos hi0, if_neg hj0]
      omega
    · have hlt := magnitudeOfNat_strictMono hj (m := i.toInt.natAbs) (by omega)
      rw [if_neg hi0, if_neg hj0]
      omega

theorem compare_ofInt64 {i j : Int64} (hi : i.toInt.natAbs ≤ exactLimit)
    (hj : j.toInt.natAbs ≤ exactLimit) : compare (ofInt64 i) (ofInt64 j) = compare i j := by
  change compare (ofInt64 i).totalKey (ofInt64 j).totalKey = compare i j
  cases hc : compare i j with
  | lt =>
    rw [Std.compare_eq_lt] at hc
    rw [Std.compare_eq_lt]
    exact totalKey_ofInt64_lt hi hj hc
  | eq =>
    rw [Std.LawfulEqOrd.eq_of_compare hc]
    exact Std.ReflOrd.compare_self
  | gt =>
    rw [Std.compare_eq_gt] at hc
    rw [Std.compare_eq_gt]
    exact totalKey_ofInt64_lt hj hi hc

theorem totalKey_ofInt64_mono {i j : Int64} (h : i ≤ j) :
    (ofInt64 i).totalKey ≤ (ofInt64 j).totalKey := by
  rw [Int64.le_iff_toInt_le] at h
  rw [totalKey_ofInt64, totalKey_ofInt64]
  by_cases hj : j.toInt < 0
  · have hle := magnitudeOfNat_mono (m := j.toInt.natAbs) (n := i.toInt.natAbs) (by omega)
    rw [if_pos (by omega), if_pos hj]
    omega
  · by_cases hi : i.toInt < 0
    · rw [if_pos hi, if_neg hj]
      omega
    · have hle := magnitudeOfNat_mono (m := i.toInt.natAbs) (n := j.toInt.natAbs) (by omega)
      rw [if_neg hi, if_neg hj]
      omega

theorem compare_ofInt64_then (i j : Int64) :
    (compare (ofInt64 i) (ofInt64 j)).then (compare i j) = compare i j := by
  change (compare (ofInt64 i).totalKey (ofInt64 j).totalKey).then (compare i j) = compare i j
  cases hc : compare (ofInt64 i).totalKey (ofInt64 j).totalKey with
  | eq => rfl
  | lt =>
    rw [Std.compare_eq_lt] at hc
    have hlt : i < j := by
      by_contra hnot
      exact absurd (totalKey_ofInt64_mono (Int64.not_lt.mp hnot)) (by omega)
    exact (Std.compare_eq_lt.mpr hlt).symm
  | gt =>
    rw [Std.compare_eq_gt] at hc
    have hgt : j < i := by
      by_contra hnot
      exact absurd (totalKey_ofInt64_mono (Int64.not_lt.mp hnot)) (by omega)
    exact (Std.compare_eq_gt.mpr hgt).symm

section Zeros

def zero : Double := ⟨0⟩

def negativeZero : Double := ⟨0x8000000000000000⟩

theorem eq_or_zeros_of_numericKey {x y : Double} (h : x.numericKey = y.numericKey) :
    x = y ∨ x = negativeZero ∧ y = zero ∨ x = zero ∧ y = negativeZero := by
  obtain ⟨x⟩ := x
  obtain ⟨y⟩ := y
  have hx := x.toNat_lt
  have hy := y.toNat_lt
  simp only [numericKey, isNegative, magnitude, signBit, decide_eq_true_eq] at h
  simp only [negativeZero, zero, mk.injEq, ← UInt64.toNat_inj, UInt64.reduceToNat]
  split at h <;> split at h <;> omega

theorem toInt_eq_zero_of_magnitude {i : Int64} (h : (ofInt64 i).magnitude = 0) : i.toInt = 0 := by
  rw [magnitude_ofInt64] at h
  by_contra hi
  have hpos := magnitudeOfNat_pos (n := i.toInt.natAbs) (by omega)
  omega

theorem eq_zero_of_ofInt64 {i : Int64} (h : ofInt64 i = zero) : i = 0 :=
  Int64.toInt_inj.mp (toInt_eq_zero_of_magnitude (h ▸ rfl))

theorem ofInt64_ne_negativeZero (i : Int64) : ofInt64 i ≠ negativeZero := by
  intro h
  have hzero := toInt_eq_zero_of_magnitude (i := i) (h ▸ rfl)
  have hnegative : (ofInt64 i).isNegative = true := h ▸ rfl
  rw [isNegative_ofInt64, decide_eq_true_eq] at hnegative
  omega

end Zeros

end WideColumn.Double

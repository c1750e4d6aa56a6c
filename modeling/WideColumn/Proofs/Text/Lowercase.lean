import WideColumn.Proofs.Text.Ascii

namespace WideColumn.Text

def CodeRange.Covers (r : CodeRange) (n : Nat) : Prop :=
  r.first ≤ n ∧ n ≤ r.last ∧ (n - r.first) % r.step = 0

theorem CodeRange.contains_iff {r : CodeRange} {c : Char} :
    r.contains c = true ↔ r.Covers c.toNat := by
  simp only [contains, Bool.and_eq_true, decide_eq_true_eq, beq_iff_eq, Covers, and_assoc]

namespace CaseShift

def avoids (s : CaseShift) (r : CodeRange) : Bool :=
  Nat.blt (s.range.last + s.offset).toNat r.first ||
    Nat.blt r.last (s.range.first + s.offset).toNat ||
    ((s.range.step == 2 || s.range.first == s.range.last) && r.step == 2 &&
      (s.range.first + s.offset - r.first) % 2 == 1)

theorem not_covers_of_avoids {s : CaseShift} {r : CodeRange} {n m : Nat} (h : s.avoids r = true)
    (hn : s.range.Covers n) (hm : (n : Int) + s.offset = m) : ¬ r.Covers m := by
  obtain ⟨hfirst, hlast, hstep⟩ := hn
  rintro ⟨hfirst', hlast', hstep'⟩
  simp only [avoids, Nat.blt_eq, Bool.or_eq_true, Bool.and_eq_true, beq_iff_eq] at h
  rcases h with (h | h) | ⟨⟨hstep2 | hone, hstep2'⟩, hodd⟩
  · omega
  · omega
  · rw [hstep2] at hstep
    rw [hstep2'] at hstep'
    omega
  · rw [hstep2'] at hstep'
    omega

end CaseShift

def capitals : List CodeRange :=
  ⟨0x41, 0x5A, 1⟩ :: uppercaseRanges

theorem exists_capitals {c : Char} (h : isUppercase c = true) :
    ∃ r ∈ capitals, r.Covers c.toNat := by
  rw [isUppercase] at h
  split at h
  · have hbounds := bounds_of_isUpper h
    exact ⟨_, List.mem_cons_self, hbounds.1, hbounds.2, Nat.mod_one _⟩
  · obtain ⟨r, hr, hc⟩ := List.any_eq_true.mp h
    exact ⟨r, List.mem_cons_of_mem _ hr, CodeRange.contains_iff.mp hc⟩

theorem capitals_pos : ∀ r ∈ capitals, 0 < r.first := by decide +kernel

theorem lowerShifts_avoid : ∀ s ∈ lowerShifts, capitals.all s.avoids = true := by decide +kernel

theorem not_isUppercase_apply {s : CaseShift} (hs : s ∈ lowerShifts) {c : Char}
    (hc : s.range.contains c = true) : isUppercase (s.apply c) = false := by
  rw [Bool.eq_false_iff]
  intro h
  obtain ⟨r, hr, hcovers⟩ := exists_capitals h
  have hpos := capitals_pos r hr
  have hfirst := hcovers.1
  -- A code that is no character would have become 0, and no capital has that code.
  have hcode : (s.apply c).toNat = (c.toNat + s.offset).toNat ∨ (s.apply c).toNat = 0 := by
    rw [CaseShift.apply]
    by_cases hvalid : (c.toNat + s.offset).toNat.isValidChar
    · rw [Char.ofNat, dif_pos hvalid]
      exact .inl rfl
    · rw [Char.ofNat, dif_neg hvalid]
      exact .inr rfl
  have havoids := List.all_eq_true.mp (lowerShifts_avoid s hs) r hr
  refine CaseShift.not_covers_of_avoids havoids (CodeRange.contains_iff.mp hc) ?_ hcovers
  omega

theorem toLower_ascii : ∀ n < 0x80, isUppercase (Char.ofNat n) = true →
    isUppercase (Char.ofNat n).toLower = false ∧ (Char.ofNat n).toLower ≠ Char.ofNat n := by
  decide +kernel

theorem not_isUppercase_lowerChar {c : Char} (h : isUppercase c = true)
    (hlower : lowerChar c ≠ [c]) : ∀ d ∈ lowerChar c, isUppercase d = false := by
  rw [lowerChar] at hlower ⊢
  split
  · rename_i hascii
    have hcode := toLower_ascii c.toNat hascii
    rw [Char.ofNat_toNat] at hcode
    exact List.forall_mem_singleton.mpr (hcode h).1
  · rename_i hascii
    rw [if_neg hascii] at hlower
    split
    · exact List.forall_mem_cons.mpr ⟨rfl, List.forall_mem_singleton.mpr (by decide +kernel)⟩
    · rename_i hdotted
      rw [if_neg hdotted, shifted] at hlower
      rw [List.forall_mem_singleton, shifted]
      cases hfound : lowerShifts.find? (·.range.contains c) with
      | none =>
        rw [hfound] at hlower
        contradiction
      | some s =>
        have hc := List.find?_some hfound
        exact not_isUppercase_apply (List.mem_of_find?_eq_some hfound) hc

def isLoneCapital (c : Char) : Bool :=
  isUppercase c && lowerChar c == [c]

theorem isLoneCapital_iff {c : Char} :
    isLoneCapital c = true ↔ isUppercase c = true ∧ lowerChar c = [c] := by
  rw [isLoneCapital, Bool.and_eq_true, beq_iff_eq]

theorem not_isLoneCapital_ascii {c : Char} (h : c.toNat < 0x80) : isLoneCapital c = false := by
  rw [Bool.eq_false_iff]
  intro hlone
  obtain ⟨hupper, hlower⟩ := isLoneCapital_iff.mp hlone
  have hcode := toLower_ascii c.toNat h
  rw [Char.ofNat_toNat] at hcode
  rw [lowerChar, if_pos h] at hlower
  exact (hcode hupper).2 (List.cons.inj hlower).1

end WideColumn.Text

import WideColumn.Proofs.Naming.SnakeCase
import WideColumn.Text.Blank

namespace WideColumn

namespace Text

def blankCodes : List Nat :=
  [0x09, 0x0A, 0x0B, 0x0C, 0x0D, 0x20, 0x85, 0xA0, 0x1680, 0x2000, 0x2001, 0x2002, 0x2003, 0x2004,
   0x2005, 0x2006, 0x2007, 0x2008, 0x2009, 0x200A, 0x2028, 0x2029, 0x202F, 0x205F, 0x3000]

theorem mem_blankCodes {c : Char} (h : isBlank c = true) : c.toNat ∈ blankCodes := by
  simp only [isBlank, Bool.or_eq_true, Bool.and_eq_true, decide_eq_true_eq, beq_iff_eq] at h
  simp only [blankCodes, List.mem_cons, List.not_mem_nil, or_false]
  omega

theorem isUppercase_of_isBlank {c : Char} (h : isBlank c = true) : isUppercase c = false := by
  have hcodes : ∀ n ∈ blankCodes, isUppercase (Char.ofNat n) = false := by decide +kernel
  rw [← Char.ofNat_toNat c]
  exact hcodes c.toNat (mem_blankCodes h)

theorem trimBlank_padding (s : String) : ∃ before after : List Char,
    s.toList = before ++ (trimBlank s).toList ++ after ∧
      (∀ c ∈ before, isBlank c = true) ∧ ∀ c ∈ after, isBlank c = true := by
  let rest := s.toList.dropWhile isBlank
  refine ⟨s.toList.takeWhile isBlank, (rest.reverse.takeWhile isBlank).reverse, ?_, ?_, ?_⟩
  · have hrest : (rest.reverse.dropWhile isBlank).reverse ++
        (rest.reverse.takeWhile isBlank).reverse = rest := by
      rw [← List.reverse_append, List.takeWhile_append_dropWhile, List.reverse_reverse]
    rw [trimBlank, String.toList_ofList, List.append_assoc, hrest,
      List.takeWhile_append_dropWhile]
  · exact fun c hc => List.all_eq_true.mp List.all_takeWhile c hc
  · exact fun c hc => List.all_eq_true.mp List.all_takeWhile c (List.mem_reverse.mp hc)

end Text

namespace SnakeCase

open Text

variable {c : Char} {pad : List Char}

theorem headChar_blank (h : isBlank c = true) : headChar c = [c] :=
  headChar_lower (isUppercase_of_isBlank h)

theorem length_headChar_le (c : Char) : (headChar c).length ≤ (tailChar c).length := by
  rw [headChar, tailChar]
  split
  · exact Nat.le_succ _
  · exact Nat.le_refl _

theorem flatMap_tailChar_blanks (h : ∀ c ∈ pad, isBlank c = true) : pad.flatMap tailChar = pad :=
  flatMap_tailChar_lower fun c hc => isUppercase_of_isBlank (h c hc)

theorem length_ofChars_le (cs : List Char) :
    (ofChars cs).length ≤ (cs.flatMap tailChar).length := by
  cases cs with
  | nil => exact Nat.le_refl 0
  | cons c cs =>
    rw [ofChars, List.flatMap_cons, List.length_append, List.length_append]
    exact Nat.add_le_add_right (length_headChar_le c) _

theorem length_ofChars_append (cs : List Char) (h : ∀ c ∈ pad, isBlank c = true) :
    (ofChars (cs ++ pad)).length = (ofChars cs).length + pad.length := by
  cases cs with
  | nil =>
    cases pad with
    | nil => rfl
    | cons b pad =>
      have hpad := flatMap_tailChar_blanks fun c hc => h c (List.mem_cons_of_mem b hc)
      rw [List.nil_append, ofChars, ofChars, headChar_blank (h b List.mem_cons_self), hpad]
      exact (Nat.zero_add _).symm
  | cons c cs =>
    rw [List.cons_append, ofChars, ofChars, List.flatMap_append, flatMap_tailChar_blanks h,
      ← List.append_assoc, List.length_append]

theorem length_ofChars_prepend (cs : List Char) (h : ∀ c ∈ pad, isBlank c = true) :
    (ofChars cs).length + pad.length ≤ (ofChars (pad ++ cs)).length := by
  cases pad with
  | nil => exact Nat.le_refl _
  | cons b pad =>
    have hpad := flatMap_tailChar_blanks fun c hc => h c (List.mem_cons_of_mem b hc)
    have hle := length_ofChars_le cs
    rw [List.cons_append, ofChars, headChar_blank (h b List.mem_cons_self), List.flatMap_append,
      hpad]
    simp only [List.length_append, List.length_cons, List.length_nil]
    omega

theorem normalize_trimBlank_iff (s : String) :
    normalize s = normalize (trimBlank s) ↔ trimBlank s = s := by
  constructor
  · intro h
    obtain ⟨before, after, hs, hbefore, hafter⟩ := trimBlank_padding s
    have hlength : (ofChars s.toList).length = (ofChars (trimBlank s).toList).length :=
      congrArg List.length (String.ofList_injective h)
    rw [hs, length_ofChars_append _ hafter] at hlength
    have hprepend := length_ofChars_prepend (trimBlank s).toList hbefore
    have hnil : before = [] ∧ after = [] := by
      constructor <;> apply List.eq_nil_of_length_eq_zero <;> omega
    rw [hnil.1, hnil.2, List.append_nil, List.nil_append] at hs
    exact (String.toList_injective hs).symm
  · intro h
    rw [h]

end SnakeCase

end WideColumn

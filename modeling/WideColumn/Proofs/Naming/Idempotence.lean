import Mathlib.Data.List.Basic
import WideColumn.Proofs.Naming.SnakeCase
import WideColumn.Proofs.Text.Lowercase

/-!
Names normalized twice. Snake case comes to rest after one step, except that a capital without a
lower case is a capital still and gets one underscore more in front of it.
-/

namespace WideColumn.SnakeCase

open Text

variable {c : Char} {cs : List Char}

theorem underscore_lower : isUppercase '_' = false := rfl

theorem tailChar_lone (h : isLoneCapital c = true) : tailChar c = ['_', c] := by
  obtain ⟨hupper, hlower⟩ := isLoneCapital_iff.mp h
  rw [tailChar_upper hupper, hlower]

def tailTwice (c : Char) : List Char :=
  if isLoneCapital c then '_' :: tailChar c else tailChar c

theorem flatMap_tailChar_settled (h : isLoneCapital c = false) :
    (tailChar c).flatMap tailChar = tailChar c := by
  cases hupper : isUppercase c with
  | false => rw [tailChar_lower hupper, List.flatMap_singleton, tailChar_lower hupper]
  | true =>
    have hlower : lowerChar c ≠ [c] := fun heq => by
      rw [isLoneCapital_iff.mpr ⟨hupper, heq⟩] at h
      contradiction
    apply flatMap_tailChar_lower
    rw [tailChar_upper hupper]
    exact List.forall_mem_cons.mpr ⟨underscore_lower, not_isUppercase_lowerChar hupper hlower⟩

theorem flatMap_tailChar (c : Char) : (tailChar c).flatMap tailChar = tailTwice c := by
  rw [tailTwice]
  split
  · rename_i h
    rw [tailChar_lone h, List.flatMap_cons, tailChar_lower underscore_lower,
      List.flatMap_singleton, tailChar_lone h]
    rfl
  · rename_i h
    exact flatMap_tailChar_settled (Bool.eq_false_iff.mpr h)

theorem lowerChar_ne_nil (c : Char) : lowerChar c ≠ [] := by
  rw [lowerChar]
  split
  · exact List.cons_ne_nil _ _
  · split <;> exact List.cons_ne_nil _ _

theorem ofChars_lower {d : Char} {ds : List Char} (h : ∀ c ∈ d :: ds, isUppercase c = false)
    (cs : List Char) : ofChars (d :: ds ++ cs) = d :: ds ++ cs.flatMap tailChar := by
  obtain ⟨hd, hds⟩ := List.forall_mem_cons.mp h
  rw [List.cons_append, ofChars, headChar_lower hd, List.flatMap_append, flatMap_tailChar_lower hds]
  rfl

theorem ofChars_headChar (c : Char) (cs : List Char) :
    ofChars (headChar c ++ cs) = headChar c ++ cs.flatMap tailChar := by
  cases hupper : isUppercase c with
  | false =>
    rw [headChar_lower hupper]
    exact ofChars_lower (List.forall_mem_singleton.mpr hupper) cs
  | true =>
    have hhead : headChar c = lowerChar c := if_pos hupper
    by_cases hlower : lowerChar c = [c]
    · rw [hhead, hlower, List.singleton_append, ofChars, hhead, hlower]
    · have hsettled := not_isUppercase_lowerChar hupper hlower
      rw [hhead]
      cases hchars : lowerChar c with
      | nil => exact absurd hchars (lowerChar_ne_nil c)
      | cons d ds => exact ofChars_lower (hchars ▸ hsettled) cs

def ofCharsTwice : List Char → List Char
  | [] => []
  | c :: rest => headChar c ++ rest.flatMap tailTwice

theorem ofChars_ofChars (cs : List Char) : ofChars (ofChars cs) = ofCharsTwice cs := by
  cases cs with
  | nil => rfl
  | cons c cs =>
    have htwice : (fun d => (tailChar d).flatMap tailChar) = tailTwice := funext flatMap_tailChar
    rw [ofChars, ofChars_headChar, List.flatMap_assoc, htwice, ofCharsTwice]

theorem length_flatMap_tailTwice (cs : List Char) : (cs.flatMap tailTwice).length =
    (cs.flatMap tailChar).length + cs.countP isLoneCapital := by
  induction cs with
  | nil => rfl
  | cons c cs ih =>
    rw [List.flatMap_cons, List.flatMap_cons, List.length_append, List.length_append, ih, tailTwice]
    cases h : isLoneCapital c with
    | true =>
      rw [if_pos rfl, List.length_cons, List.countP_cons_of_pos h]
      omega
    | false =>
      rw [if_neg Bool.false_ne_true, List.countP_cons_of_neg (Bool.eq_false_iff.mp h)]
      omega

theorem ofCharsTwice_eq_iff (cs : List Char) :
    ofCharsTwice cs = ofChars cs ↔ ∀ c ∈ cs.tail, isLoneCapital c = false := by
  cases cs with
  | nil => simp [ofCharsTwice, ofChars]
  | cons c cs =>
    rw [ofCharsTwice, ofChars, List.append_cancel_left_eq, List.tail_cons]
    constructor
    · intro h d hd
      have hlength := congrArg List.length h
      rw [length_flatMap_tailTwice, Nat.add_eq_left, List.countP_eq_zero] at hlength
      exact Bool.eq_false_iff.mpr (hlength d hd)
    · intro h
      apply List.flatMap_congr
      intro d hd
      rw [tailTwice, h d hd, if_neg Bool.false_ne_true]

/-- A second normalization writes one more underscore before every lone capital after the head and
changes nothing else. Names without one, such as all of ASCII, stay as they are. -/
theorem normalize_idempotent_iff (s : String) :
    normalize (normalize s) = String.ofList (ofCharsTwice s.toList) ∧
      (normalize (normalize s) = normalize s ↔ ∀ c ∈ s.toList.tail, isLoneCapital c = false) ∧
      ((∀ c ∈ s.toList, c.toNat < 0x80) → normalize (normalize s) = normalize s) := by
  have htwice : normalize (normalize s) = String.ofList (ofCharsTwice s.toList) := by
    rw [normalize, normalize, String.toList_ofList, ofChars_ofChars]
  have hiff : normalize (normalize s) = normalize s ↔
      ∀ c ∈ s.toList.tail, isLoneCapital c = false := by
    rw [htwice, normalize, ← ofCharsTwice_eq_iff]
    exact ⟨fun h => String.ofList_injective h, congrArg String.ofList⟩
  refine ⟨htwice, hiff, fun hascii => hiff.mpr ?_⟩
  exact fun c hc => not_isLoneCapital_ascii (hascii c (List.mem_of_mem_tail hc))

theorem normalize_idempotent_iff_settled :
    (∀ c ∈ "userÉtat2".toList.tail, isLoneCapital c = false) ∧
      normalize (normalize "userÉtat2") = normalize "userÉtat2" ∧
      (∀ c ∈ "userId".toList, c.toNat < 0x80) ∧
      normalize (normalize "userId") = normalize "userId" := by
  have hnone : "userÉtat2".toList.tail.any isLoneCapital = false := by decide +kernel
  have hsettled : ∀ c ∈ "userÉtat2".toList.tail, isLoneCapital c = false :=
    fun c hc => Bool.eq_false_iff.mpr (List.any_eq_false.mp hnone c hc)
  have hall : ("userId".toList.all fun c => c.toNat < 0x80) = true := by decide
  have hascii : ∀ c ∈ "userId".toList, c.toNat < 0x80 :=
    fun c hc => of_decide_eq_true (List.all_eq_true.mp hall c hc)
  exact ⟨hsettled, (normalize_idempotent_iff _).2.1.mpr hsettled, hascii,
    (normalize_idempotent_iff _).2.2 hascii⟩

theorem normalize_moves_again :
    normalize "inℝ" = "in_ℝ" ∧ normalize (normalize "inℝ") = "in__ℝ" ∧
      normalize (normalize "inℝ") ≠ normalize "inℝ" := by
  decide +kernel

end WideColumn.SnakeCase

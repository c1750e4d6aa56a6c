import WideColumn.Naming

namespace WideColumn.SnakeCase

open Text

variable {c : Char} {cs : List Char}

theorem headChar_lower (h : isUppercase c = false) : headChar c = [c] := by
  rw [headChar, h, if_neg Bool.false_ne_true]

theorem tailChar_lower (h : isUppercase c = false) : tailChar c = [c] := by
  rw [tailChar, h, if_neg Bool.false_ne_true]

theorem tailChar_upper (h : isUppercase c = true) : tailChar c = '_' :: lowerChar c := if_pos h

theorem flatMap_tailChar_lower (h : ∀ c ∈ cs, isUppercase c = false) :
    cs.flatMap tailChar = cs := by
  induction cs with
  | nil => rfl
  | cons c cs ih =>
    obtain ⟨hc, hcs⟩ := List.forall_mem_cons.mp h
    rw [List.flatMap_cons, tailChar_lower hc, ih hcs, List.singleton_append]

end WideColumn.SnakeCase

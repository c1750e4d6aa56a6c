import WideColumn.Text.Case
import WideColumn.Text.Cluster

namespace WideColumn.Text

theorem forall_ascii {P : Char → Prop} (h : ∀ n < 0x80, P (Char.ofNat n)) {c : Char}
    (hc : c.toNat < 0x80) : P c := by
  rw [← Char.ofNat_toNat c]
  exact h c.toNat hc

variable {c d : Char} {cs : List Char}

theorem isAlphanum_iff :
    c.isAlphanum = true ↔ (c.isUpper = true ∨ c.isLower = true) ∨ c.isDigit = true := by
  have hcases : c.isAlphanum = (c.isUpper || c.isLower || c.isDigit) := rfl
  rw [hcases, Bool.or_eq_true, Bool.or_eq_true]

theorem bounds_of_isUpper (h : c.isUpper = true) : 0x41 ≤ c.toNat ∧ c.toNat ≤ 0x5A := by
  have hbounds : 'A'.val ≤ c.val ∧ c.val ≤ 'Z'.val := of_decide_eq_true h
  exact hbounds.imp UInt32.le_iff_toNat_le.mp UInt32.le_iff_toNat_le.mp

theorem le_of_isLower (h : c.isLower = true) : c.toNat ≤ 0x7A := by
  have hbounds : (decide ('a'.val ≤ c.val) && decide (c.val ≤ 'z'.val)) = true := h
  rw [Bool.and_eq_true, decide_eq_true_eq, decide_eq_true_eq] at hbounds
  exact UInt32.le_iff_toNat_le.mp hbounds.2

theorem le_of_isDigit (h : c.isDigit = true) : c.toNat ≤ 0x39 := by
  have hbounds : (decide ('0'.val ≤ c.val) && decide (c.val ≤ '9'.val)) = true := h
  rw [Bool.and_eq_true, decide_eq_true_eq, decide_eq_true_eq] at hbounds
  exact UInt32.le_iff_toNat_le.mp hbounds.2

theorem ascii_of_isAlphanum (h : c.isAlphanum = true) : c.toNat < 0x80 := by
  rcases isAlphanum_iff.mp h with ((h | h) | h)
  · have hbounds := bounds_of_isUpper h
    omega
  · have hle := le_of_isLower h
    omega
  · have hle := le_of_isDigit h
    omega

theorem isUppercase_ascii (h : c.toNat < 0x80) : isUppercase c = c.isUpper := if_pos h

theorem lowerChar_ascii (h : c.toNat < 0x80) : lowerChar c = [c.toLower] := if_pos h

theorem upperChar_ascii (h : c.toNat < 0x80) : upperChar c = [c.toUpper] := if_pos h

theorem lowerAfter_ascii (h : ∀ c ∈ cs, c.toNat < 0x80) (before : List Char) :
    lowerAfter before cs = cs.map Char.toLower := by
  induction cs generalizing before with
  | nil => rfl
  | cons c cs ih =>
    obtain ⟨hc, hcs⟩ := List.forall_mem_cons.mp h
    have hsigma : c ≠ 'Σ' := by
      rintro rfl
      contradiction
    rw [lowerAfter, if_neg hsigma, ih hcs, lowerChar_ascii hc]
    rfl

theorem lowerText_ascii (h : ∀ c ∈ cs, c.toNat < 0x80) : lowerText cs = cs.map Char.toLower :=
  lowerAfter_ascii h []

theorem not_continuesCluster (hc : ClusterClass.ofChar c = .other)
    (hd : ClusterClass.ofChar d = .other) (before : List Char) :
    continuesCluster c before d = false := by
  rw [continuesCluster, hc, hd]
  rfl

theorem clustersFrom_other (hc : ClusterClass.ofChar c = .other)
    (h : ∀ d ∈ cs, ClusterClass.ofChar d = .other) :
    clustersFrom c [] cs = (c :: cs).map fun d => [d] := by
  induction cs generalizing c with
  | nil => rfl
  | cons d cs ih =>
    obtain ⟨hd, hcs⟩ := List.forall_mem_cons.mp h
    rw [clustersFrom, not_continuesCluster hc hd, if_neg Bool.false_ne_true, ih hd hcs]
    rfl

theorem clusters_other (h : ∀ c ∈ cs, ClusterClass.ofChar c = .other) :
    clusters cs = cs.map fun c => [c] := by
  cases cs with
  | nil => rfl
  | cons c cs =>
    obtain ⟨hc, hcs⟩ := List.forall_mem_cons.mp h
    exact clustersFrom_other hc hcs

end WideColumn.Text

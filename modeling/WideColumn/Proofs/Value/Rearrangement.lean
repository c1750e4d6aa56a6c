import Mathlib.Dynamics.PeriodicPts.Lemmas
import WideColumn.Proofs.Value.Sorting

/-!
Lists that are mapped and rearranged over and over. A list that comes back after some rounds was
not changed by any: its elements only moved round among themselves, so each came back, and a
rearrangement that loses nothing settles at once.
-/

open Function (periodicPts IsPeriodicPt)

namespace WideColumn

variable {α : Type}

structure Settling (arrange : List α → List α) : Prop where
  subperm : ∀ xs, (arrange xs).Subperm xs
  settles : ∀ xs, (arrange xs).length = xs.length → arrange (arrange xs) = arrange xs

theorem settling_id : Settling (fun xs : List α => xs) where
  subperm _ := .refl _
  settles _ _ := rfl

theorem settling_sort (order : α → α → Ordering) [Std.OrientedCmp order] :
    Settling (Insertion.sort fun a b => order a b == .lt) where
  subperm xs := (Insertion.sort_perm _ xs).subperm
  settles xs _ := Insertion.sort_eq_self (Insertion.sort_isChain Insertion.below_asymm xs)

theorem settling_distinctSort (order : α → α → Ordering) [Std.OrientedCmp order] :
    Settling (Insertion.distinctSort order) where
  subperm := Insertion.distinctSort_subperm order
  settles _ h := Insertion.distinctSort_eq_self_of_lt (Insertion.distinctSort_isChain h)

theorem mem_periodicPts_of_perm_map {g : α → α} {xs : List α} (h : xs.Perm (xs.map g)) {x : α}
    (hx : x ∈ xs) : x ∈ periodicPts g := by
  have hmaps : ∀ y ∈ xs, g y ∈ xs := fun y hy => h.mem_iff.mpr (List.mem_map_of_mem hy)
  let restricted : {y // y ∈ xs} → {y // y ∈ xs} := Subtype.map g hmaps
  have : Finite {y // y ∈ xs} := xs.finite_toSet
  have hsurjective : Function.Surjective restricted := by
    rintro ⟨y, hy⟩
    obtain ⟨z, hz, rfl⟩ := List.mem_map.mp (h.mem_iff.mp hy)
    exact ⟨⟨z, hz⟩, rfl⟩
  have hperiodic := (Finite.injective_iff_surjective.mpr hsurjective).mem_periodicPts ⟨x, hx⟩
  exact Function.Semiconj.mapsTo_periodicPts (g := Subtype.val) (fun _ => rfl) hperiodic

theorem mem_periodicPts_of_iterate {f : α → α} {n : Nat} (hn : 0 < n) {x : α}
    (h : x ∈ periodicPts f^[n]) : x ∈ periodicPts f := by
  obtain ⟨m, hm, hperiod⟩ := h
  rw [IsPeriodicPt, ← Function.iterate_mul] at hperiod
  exact Function.mk_mem_periodicPts (Nat.mul_pos hn hm) hperiod

section Rounds

variable {arrange : List α → List α} (harrange : Settling arrange) {f : α → α} {xs : List α}

def round (arrange : List α → List α) (f : α → α) (xs : List α) : List α :=
  arrange (xs.map f)

include harrange

theorem length_round_le (f : α → α) (xs : List α) : (round arrange f xs).length ≤ xs.length :=
  (harrange.subperm _).length_le.trans (List.length_map f).le

theorem length_iterate_round {n k : Nat} (h : (round arrange f)^[n] xs = xs) (hk : k ≤ n) :
    ((round arrange f)^[k] xs).length = xs.length := by
  have hanti : Antitone fun k => ((round arrange f)^[k] xs).length := by
    refine antitone_nat_of_succ_le fun k => ?_
    rw [Function.iterate_succ_apply']
    exact length_round_le harrange f _
  have hupper := hanti (Nat.zero_le k)
  have hlower := hanti hk
  simp only [h, Function.iterate_zero, id_eq] at hupper hlower
  exact Nat.le_antisymm hupper hlower

theorem iterate_round_perm {n k : Nat} (h : (round arrange f)^[n] xs = xs) (hk : k ≤ n) :
    ((round arrange f)^[k] xs).Perm (xs.map f^[k]) := by
  induction k with
  | zero => simp
  | succ k ih =>
    have hk' : k ≤ n := Nat.le_of_succ_le hk
    have hlength := (length_iterate_round harrange h hk).trans
      (length_iterate_round harrange h hk').symm
    rw [Function.iterate_succ_apply'] at hlength ⊢
    have hround := (harrange.subperm (((round arrange f)^[k] xs).map f)).perm_of_length_le
      (by rw [List.length_map]; exact hlength.ge)
    refine hround.trans (((ih hk').map f).trans ?_)
    rw [List.map_map, Function.iterate_succ']

theorem eq_self_of_mem_periodicPts (h : xs ∈ periodicPts (round arrange f))
    (hfixed : ∀ x ∈ xs, x ∈ periodicPts f → f x = x) : xs.map f = xs ∧ arrange xs = xs := by
  obtain ⟨n, hn, hperiod⟩ := h
  have heach : ∀ x ∈ xs, f x = x := by
    intro x hx
    have hperm := iterate_round_perm harrange hperiod le_rfl
    rw [show (round arrange f)^[n] xs = xs from hperiod] at hperm
    exact hfixed x hx (mem_periodicPts_of_iterate hn (mem_periodicPts_of_perm_map hperm hx))
  have hmap : ∀ ys : List α, (∀ y ∈ ys, y ∈ xs) → ys.map f = ys := fun ys hys =>
    (List.map_congr_left fun y hy => heach y (hys y hy)).trans (List.map_id ys)
  have hfirst : round arrange f xs = arrange xs := by rw [round, hmap xs fun _ h => h]
  have hlength : (arrange xs).length = xs.length := by
    rw [← hfirst]
    exact length_iterate_round harrange hperiod (k := 1) hn
  -- from the first round on nothing changes, and the last round gives the list back
  have hstays : round arrange f (arrange xs) = arrange xs := by
    rw [round, hmap _ fun _ h => (harrange.subperm xs).subset h, harrange.settles xs hlength]
  obtain ⟨m, rfl⟩ := Nat.exists_eq_add_of_lt hn
  rw [IsPeriodicPt, Function.IsFixedPt, Nat.zero_add, Function.iterate_succ_apply, hfirst,
    Function.iterate_fixed hstays] at hperiod
  exact ⟨hmap xs fun _ h => h, hperiod⟩

end Rounds

end WideColumn

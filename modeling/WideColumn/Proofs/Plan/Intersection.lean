import WideColumn.Plan.Pushdown
import WideColumn.Proofs.Outcome
import WideColumn.Proofs.Value.Coercion

namespace WideColumn

section Distinct

variable {α : Type} {r : α → α → Bool} {x : α}

theorem mem_of_mem_eraseDupsBy {xs : List α} (h : x ∈ xs.eraseDupsBy r) : x ∈ xs := by
  match xs with
  | [] => exact h
  | y :: ys =>
    rw [List.eraseDupsBy_cons] at h
    rcases List.mem_cons.mp h with rfl | h
    · exact List.mem_cons_self
    · have hlen := List.length_filter_le (fun b => !r b y) ys
      exact List.mem_cons_of_mem _ (List.mem_filter.mp (mem_of_mem_eraseDupsBy h)).1
termination_by xs.length

theorem exists_mem_eraseDupsBy {xs : List α} (h : x ∈ xs) :
    ∃ k ∈ xs.eraseDupsBy r, k = x ∨ r x k = true := by
  match xs with
  | y :: ys =>
    rw [List.eraseDupsBy_cons]
    rcases List.mem_cons.mp h with rfl | h
    · exact ⟨x, List.mem_cons_self, .inl rfl⟩
    · cases hr : r x y with
      | true => exact ⟨y, List.mem_cons_self, .inr hr⟩
      | false =>
        have hlen := List.length_filter_le (fun b => !r b y) ys
        have hx : x ∈ ys.filter fun b => r b y = false :=
          List.mem_filter.mpr ⟨h, decide_eq_true hr⟩
        obtain ⟨k, hk, heq⟩ := exists_mem_eraseDupsBy hx
        exact ⟨k, List.mem_cons_of_mem _ hk, heq⟩
termination_by xs.length

end Distinct

namespace Membership

def intersection : List (List Value) → List Value
  | [] => []
  | first :: others =>
    (first.filter fun e => others.all fun list => list.any fun o => e.looseEq o).eraseDupsBy
      fun e kept => kept.looseEq e

theorem of_mem_intersection {first : List Value} {others : List (List Value)} {k : Value}
    (h : k ∈ intersection (first :: others)) :
    k ∈ first ∧ ∀ list ∈ others, ∃ o ∈ list, k.looseEq o = true := by
  simpa using List.mem_filter.mp (mem_of_mem_eraseDupsBy h)

theorem exists_mem_intersection {first : List Value} {others : List (List Value)} {e : Value}
    (he : e ∈ first) (h : ∀ list ∈ others, ∃ o ∈ list, e.looseEq o = true) :
    ∃ k ∈ intersection (first :: others), k = e ∨ k.looseEq e = true :=
  exists_mem_eraseDupsBy (List.mem_filter.mpr ⟨he, by simpa using h⟩)

theorem intersection_eq_nil {lists : List (List Value)} (h : [] ∈ lists) :
    intersection lists = [] := by
  cases lists with
  | nil => rfl
  | cons first others =>
    rw [List.eq_nil_iff_forall_not_mem]
    intro k hk
    obtain ⟨hfirst, hothers⟩ := of_mem_intersection hk
    rcases List.mem_cons.mp h with rfl | h
    · contradiction
    · obtain ⟨o, ho, -⟩ := hothers [] h
      contradiction

theorem distinctOnto_eq (seen vs : List Value) :
    distinctOnto seen vs =
      seen ++ (vs.filter fun v => !seen.any fun s => s.looseEq v).eraseDupsBy
        fun e kept => kept.looseEq e := by
  induction vs generalizing seen with
  | nil => simp [distinctOnto]
  | cons v vs ih =>
    rw [distinctOnto]
    by_cases h : (seen.any fun s => s.looseEq v) = true
    · rw [if_pos h, ih, List.filter_cons_of_neg (by simp [h])]
    · rw [if_neg h, ih, List.filter_cons_of_pos (by simp [h]), List.eraseDupsBy_cons,
        List.filter_filter]
      simp [Bool.and_comm]

theorem common_eq_intersection (ls : List (List Value)) : common ls = intersection ls := by
  cases ls with
  | nil => rfl
  | cons first others => simp [common, intersection, distinct, distinctOnto_eq]

theorem lists_eq_ok {c : String} {operands : List Value} {ls : List (List Value)} :
    lists c operands = .ok ls ↔ operands.map Value.asSequence = ls.map some := by
  induction operands generalizing ls with
  | nil => cases ls <;> simp [lists]
  | cons v vs ih =>
    rw [lists]
    cases hv : v.asSequence with
    | none => cases ls <;> simp [hv]
    | some items =>
      simp only [Outcome.bind_eq_ok, Outcome.pure_eq_ok, ih, List.map_cons, hv]
      cases ls with
      | nil => simp
      | cons l ls =>
        simp only [List.cons.injEq, List.map_cons, Option.some.injEq]
        constructor
        · rintro ⟨a, ha, rfl, rfl⟩
          exact ⟨rfl, ha⟩
        · rintro ⟨rfl, h⟩
          exact ⟨ls, h, rfl, rfl⟩

theorem lists_eq_elements {c : String} {operands : List Value} {ls : List (List Value)}
    (h : lists c operands = .ok ls) : ls = operands.map Value.elements := by
  have hseq := congrArg (List.map (·.getD [])) (lists_eq_ok.mp h)
  change ls = operands.map fun v => v.asSequence.getD []
  simpa [Function.comp_def] using hseq.symm

end Membership

end WideColumn

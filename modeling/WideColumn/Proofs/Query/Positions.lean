import WideColumn.Proofs.Outcome
import WideColumn.Query.Bind
import WideColumn.Query.Leaves

namespace WideColumn

namespace Predicate

mutual

def leaves : Predicate → List FieldTest
  | test t => [t]
  | all parts | any parts => leavesOf parts

def leavesOf : List Predicate → List FieldTest
  | [] => []
  | p :: ps => leaves p ++ leavesOf ps

end

mutual

theorem length_leaves : ∀ p : Predicate, (leaves p).length = leafCount p
  | test _ => rfl
  | all parts => by simp only [leaves, leafCount, length_leavesOf parts]
  | any parts => by simp only [leaves, leafCount, length_leavesOf parts]

theorem length_leavesOf : ∀ ps : List Predicate, (leavesOf ps).length = leafCountOf ps
  | [] => rfl
  | p :: ps => by
    simp only [leavesOf, leafCountOf, List.length_append, length_leaves p, length_leavesOf ps]

end

mutual

theorem conjunctiveLeaves_place (first : Nat) :
    ∀ (p : Predicate) (id : Nat) (t : FieldTest), (id, t) ∈ conjunctiveLeaves first p →
      ∃ i, id = first + i ∧ (leaves p)[i]? = some t
  | test s, id, t, h => by
    simp only [conjunctiveLeaves, List.mem_singleton, Prod.mk.injEq] at h
    obtain ⟨rfl, rfl⟩ := h
    exact ⟨0, rfl, rfl⟩
  | all parts, id, t, h => by
    simp only [conjunctiveLeaves] at h
    simpa only [leaves] using conjunctiveLeavesOf_place first parts id t h
  | any _, id, t, h => by simp [conjunctiveLeaves] at h

theorem conjunctiveLeavesOf_place (first : Nat) :
    ∀ (ps : List Predicate) (id : Nat) (t : FieldTest), (id, t) ∈ conjunctiveLeavesOf first ps →
      ∃ i, id = first + i ∧ (leavesOf ps)[i]? = some t
  | [], id, t, h => by simp [conjunctiveLeavesOf] at h
  | p :: ps, id, t, h => by
    simp only [conjunctiveLeavesOf, List.mem_append] at h
    rcases h with h | h
    · obtain ⟨i, hi, ht⟩ := conjunctiveLeaves_place first p id t h
      obtain ⟨hlt, -⟩ := List.getElem?_eq_some_iff.mp ht
      exact ⟨i, hi, by rw [leavesOf, List.getElem?_append_left hlt, ht]⟩
    · obtain ⟨i, hi, ht⟩ := conjunctiveLeavesOf_place (first + leafCount p) ps id t h
      refine ⟨leafCount p + i, by omega, ?_⟩
      rw [leavesOf, ← length_leaves p, List.getElem?_append_right (by omega)]
      simpa only [Nat.add_sub_cancel_left] using ht

end

theorem conjunctiveLeaves_bounds {first id : Nat} {p : Predicate} {t : FieldTest}
    (h : (id, t) ∈ conjunctiveLeaves first p) : first ≤ id ∧ id < first + leafCount p := by
  obtain ⟨i, hi, ht⟩ := conjunctiveLeaves_place first p id t h
  obtain ⟨hlt, -⟩ := List.getElem?_eq_some_iff.mp ht
  rw [length_leaves] at hlt
  omega

theorem conjunctiveLeavesOf_bounds {first id : Nat} {ps : List Predicate} {t : FieldTest}
    (h : (id, t) ∈ conjunctiveLeavesOf first ps) : first ≤ id ∧ id < first + leafCountOf ps := by
  obtain ⟨i, hi, ht⟩ := conjunctiveLeavesOf_place first ps id t h
  obtain ⟨hlt, -⟩ := List.getElem?_eq_some_iff.mp ht
  rw [length_leavesOf] at hlt
  omega

mutual

theorem conjunctiveLeaves_ascending (first : Nat) :
    ∀ p : Predicate, ((conjunctiveLeaves first p).map Prod.fst).Pairwise (· < ·)
  | test _ => by simp [conjunctiveLeaves]
  | all parts => by
    simpa only [conjunctiveLeaves] using conjunctiveLeavesOf_ascending first parts
  | any _ => by simp [conjunctiveLeaves]

theorem conjunctiveLeavesOf_ascending (first : Nat) :
    ∀ ps : List Predicate, ((conjunctiveLeavesOf first ps).map Prod.fst).Pairwise (· < ·)
  | [] => by simp [conjunctiveLeavesOf]
  | p :: ps => by
    rw [conjunctiveLeavesOf, List.map_append, List.pairwise_append]
    refine ⟨conjunctiveLeaves_ascending first p,
      conjunctiveLeavesOf_ascending (first + leafCount p) ps, ?_⟩
    intro i hi j hj
    obtain ⟨⟨_, t⟩, ht, rfl⟩ := List.mem_map.mp hi
    obtain ⟨⟨_, s⟩, hs, rfl⟩ := List.mem_map.mp hj
    exact Nat.lt_of_lt_of_le (conjunctiveLeaves_bounds ht).2 (conjunctiveLeavesOf_bounds hs).1

end

theorem conjunctiveLeavesOf_append (first : Nat) (ps qs : List Predicate) :
    conjunctiveLeavesOf first (ps ++ qs) =
      conjunctiveLeavesOf first ps ++ conjunctiveLeavesOf (first + leafCountOf ps) qs := by
  induction ps generalizing first with
  | nil => rfl
  | cons p ps ih =>
    rw [List.cons_append, conjunctiveLeavesOf, conjunctiveLeavesOf, leafCountOf, ih,
      List.append_assoc, Nat.add_assoc]

inductive ConjoinedAt : List Predicate → Nat → FieldTest → Prop where
  | test (before : List Predicate) (t : FieldTest) (after : List Predicate) :
      ConjoinedAt (before ++ test t :: after) (leavesOf before).length t
  | all (before : List Predicate) {parts : List Predicate} {i : Nat} {t : FieldTest}
      (inner : ConjoinedAt parts i t) (after : List Predicate) :
      ConjoinedAt (before ++ all parts :: after) ((leavesOf before).length + i) t

theorem ConjoinedAt.cons {ps : List Predicate} {i : Nat} {t : FieldTest} (p : Predicate)
    (h : ConjoinedAt ps i t) : ConjoinedAt (p :: ps) (leafCount p + i) t := by
  cases h with
  | test before t after =>
    have hplace := ConjoinedAt.test (p :: before) t after
    rwa [leavesOf, List.length_append, length_leaves] at hplace
  | all before inner after =>
    have hplace := ConjoinedAt.all (p :: before) inner after
    rwa [leavesOf, List.length_append, length_leaves, Nat.add_assoc] at hplace

mutual

theorem conjoinedAt_of_mem (first : Nat) (ps : List Predicate) :
    ∀ (p : Predicate) {id : Nat} {t : FieldTest}, (id, t) ∈ conjunctiveLeaves first p →
      ∃ i, id = first + i ∧ ConjoinedAt (p :: ps) i t
  | test s, id, t, h => by
    simp only [conjunctiveLeaves, List.mem_singleton, Prod.mk.injEq] at h
    obtain ⟨rfl, rfl⟩ := h
    exact ⟨0, rfl, .test [] _ ps⟩
  | all parts, id, t, h => by
    rw [conjunctiveLeaves] at h
    obtain ⟨i, hi, inner⟩ := conjoinedAt_of_memOf first parts h
    have hplace := ConjoinedAt.all [] inner ps
    rw [leavesOf, List.length_nil, Nat.zero_add] at hplace
    exact ⟨i, hi, hplace⟩
  | any _, id, t, h => by simp [conjunctiveLeaves] at h

theorem conjoinedAt_of_memOf (first : Nat) :
    ∀ (ps : List Predicate) {id : Nat} {t : FieldTest}, (id, t) ∈ conjunctiveLeavesOf first ps →
      ∃ i, id = first + i ∧ ConjoinedAt ps i t
  | [], id, t, h => by simp [conjunctiveLeavesOf] at h
  | p :: ps, id, t, h => by
    rw [conjunctiveLeavesOf, List.mem_append] at h
    rcases h with h | h
    · exact conjoinedAt_of_mem first ps p h
    · obtain ⟨i, hi, hplace⟩ := conjoinedAt_of_memOf (first + leafCount p) ps h
      exact ⟨leafCount p + i, by omega, hplace.cons p⟩

end

theorem ConjoinedAt.mem {ps : List Predicate} {i : Nat} {t : FieldTest} (h : ConjoinedAt ps i t)
    (first : Nat) : (first + i, t) ∈ conjunctiveLeavesOf first ps := by
  induction h generalizing first with
  | test before t after =>
    rw [conjunctiveLeavesOf_append, length_leavesOf]
    exact List.mem_append_right _ List.mem_cons_self
  | all before inner after ih =>
    rw [conjunctiveLeavesOf_append, length_leavesOf, ← Nat.add_assoc]
    exact List.mem_append_right _ (List.mem_append_left _ (ih _))

theorem mem_conjunctiveLeavesOf {ps : List Predicate} {i : Nat} {t : FieldTest} :
    (i, t) ∈ conjunctiveLeavesOf 0 ps ↔ ConjoinedAt ps i t := by
  constructor
  · intro h
    obtain ⟨j, rfl, hplace⟩ := conjoinedAt_of_memOf 0 ps h
    rwa [Nat.zero_add]
  · intro h
    rw [← Nat.zero_add i]
    exact h.mem 0

section Binding

open Outcome

variable {params : List Value}

theorem bind_test_eq_ok {t : FieldTest} {b : Predicate} :
    (test t).bind params = .ok b ↔ ∃ s, t.bind params = .ok s ∧ b = test s := by
  simp only [Predicate.bind, bind_eq_ok, pure_eq_ok]

theorem bind_all_eq_ok {parts : List Predicate} {b : Predicate} :
    (all parts).bind params = .ok b ↔ ∃ bs, bindAll params parts = .ok bs ∧ b = all bs := by
  simp only [Predicate.bind, bind_eq_ok, pure_eq_ok]

theorem bind_any_eq_ok {parts : List Predicate} {b : Predicate} :
    (any parts).bind params = .ok b ↔ ∃ bs, bindAll params parts = .ok bs ∧ b = any bs := by
  simp only [Predicate.bind, bind_eq_ok, pure_eq_ok]

theorem bindAll_cons_eq_ok {p : Predicate} {ps bs : List Predicate} :
    bindAll params (p :: ps) = .ok bs ↔
      ∃ c cs, p.bind params = .ok c ∧ bindAll params ps = .ok cs ∧ bs = c :: cs := by
  simp only [bindAll, bind_eq_ok, pure_eq_ok]
  constructor
  · rintro ⟨c, hc, cs, hcs, rfl⟩
    exact ⟨c, cs, hc, hcs, rfl⟩
  · rintro ⟨c, cs, hc, hcs, rfl⟩
    exact ⟨c, hc, cs, hcs, rfl⟩

mutual

theorem leafCount_bind :
    ∀ (p : Predicate) {b : Predicate}, p.bind params = .ok b → leafCount b = leafCount p
  | test _, _, h => by
    obtain ⟨s, -, rfl⟩ := bind_test_eq_ok.mp h
    rfl
  | all parts, _, h => by
    obtain ⟨bs, hbs, rfl⟩ := bind_all_eq_ok.mp h
    simpa only [leafCount] using leafCountOf_bindAll parts hbs
  | any parts, _, h => by
    obtain ⟨bs, hbs, rfl⟩ := bind_any_eq_ok.mp h
    simpa only [leafCount] using leafCountOf_bindAll parts hbs

theorem leafCountOf_bindAll :
    ∀ (ps : List Predicate) {bs : List Predicate}, bindAll params ps = .ok bs →
      leafCountOf bs = leafCountOf ps
  | [], _, h => by
    cases h
    rfl
  | p :: ps, _, h => by
    obtain ⟨c, cs, hc, hcs, rfl⟩ := bindAll_cons_eq_ok.mp h
    simp only [leafCountOf, leafCount_bind p hc, leafCountOf_bindAll ps hcs]

end

end Binding

end Predicate

end WideColumn

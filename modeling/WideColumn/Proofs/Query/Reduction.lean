import WideColumn.Proofs.Query.Positions
import WideColumn.Query.Matches

namespace WideColumn

namespace Predicate

variable {pushed : List LeafId} {params : List Value} {source : FieldSource} {n : Nat}
  {ps rs : List Predicate}

inductive Pruned (pushed : List LeafId) : Nat → List Predicate → List Predicate → Prop where
  | nil {n : Nat} : Pruned pushed n [] []
  | dropped {n : Nat} {t : FieldTest} {ps rs : List Predicate} (h : n ∈ pushed)
      (rest : Pruned pushed (n + 1) ps rs) : Pruned pushed n (test t :: ps) rs
  | kept {n : Nat} {t : FieldTest} {ps rs : List Predicate} (h : n ∉ pushed)
      (rest : Pruned pushed (n + 1) ps rs) : Pruned pushed n (test t :: ps) (test t :: rs)
  | emptied {n : Nat} {parts ps rs : List Predicate} (inner : Pruned pushed n parts [])
      (rest : Pruned pushed (n + leafCountOf parts) ps rs) : Pruned pushed n (all parts :: ps) rs
  | group {n : Nat} {parts left ps rs : List Predicate} (inner : Pruned pushed n parts left)
      (h : left ≠ []) (rest : Pruned pushed (n + leafCountOf parts) ps rs) :
      Pruned pushed n (all parts :: ps) (all left :: rs)
  | any {n : Nat} {parts ps rs : List Predicate}
      (rest : Pruned pushed (n + leafCountOf parts) ps rs) :
      Pruned pushed n (any parts :: ps) (any parts :: rs)

theorem pruneAll_cons (n : Nat) (p : Predicate) (ps : List Predicate) :
    pruneAll pushed n (p :: ps) =
      (prune pushed n p).toList ++ pruneAll pushed (n + leafCount p) ps := by
  rw [pruneAll]
  cases prune pushed n p <;> rfl

theorem prune_test (n : Nat) (t : FieldTest) :
    prune pushed n (test t) = if n ∈ pushed then none else some (test t) := by
  simp [prune]

theorem prune_all (n : Nat) (parts : List Predicate) :
    prune pushed n (all parts) =
      if pruneAll pushed n parts = [] then none else some (all (pruneAll pushed n parts)) := by
  rw [prune]
  cases pruneAll pushed n parts <;> rfl

mutual

theorem pruned_prune (n : Nat) : ∀ (p : Predicate) {ps rs : List Predicate},
    Pruned pushed (n + leafCount p) ps rs →
      Pruned pushed n (p :: ps) ((prune pushed n p).toList ++ rs)
  | test t, _, _, rest => by
    rw [prune_test]
    split
    · exact .dropped ‹_› rest
    · exact .kept ‹_› rest
  | all parts, _, _, rest => by
    have inner := pruned_pruneAll n parts
    rw [prune_all]
    split
    · rename_i h
      exact .emptied (h ▸ inner) rest
    · exact .group inner ‹_› rest
  | any _, _, _, rest => .any rest

theorem pruned_pruneAll (n : Nat) : ∀ ps : List Predicate, Pruned pushed n ps (pruneAll pushed n ps)
  | [] => .nil
  | p :: ps => by
    rw [pruneAll_cons]
    exact pruned_prune n p (pruned_pruneAll (n + leafCount p) ps)

end

theorem Pruned.eq (h : Pruned pushed n ps rs) : rs = pruneAll pushed n ps := by
  induction h with
  | nil => rfl
  | dropped h _ ih => rw [pruneAll_cons, prune_test, if_pos h, ih]; rfl
  | kept h _ ih => rw [pruneAll_cons, prune_test, if_neg h, ih]; rfl
  | emptied _ _ ihi ih => rw [pruneAll_cons, prune_all, if_pos ihi.symm, ih]; rfl
  | group _ h _ ihi ih => rw [pruneAll_cons, prune_all, ← ihi, if_neg h, ih]; rfl
  | any _ ih => rw [pruneAll_cons, ih]; rfl

theorem conjunctiveLeavesOf_test (t : FieldTest) :
    conjunctiveLeavesOf n (test t :: ps) = (n, t) :: conjunctiveLeavesOf (n + 1) ps := rfl

theorem conjunctiveLeavesOf_all (parts : List Predicate) :
    conjunctiveLeavesOf n (all parts :: ps) =
      conjunctiveLeavesOf n parts ++ conjunctiveLeavesOf (n + leafCountOf parts) ps := rfl

theorem conjunctiveLeavesOf_any (parts : List Predicate) :
    conjunctiveLeavesOf n (any parts :: ps) =
      conjunctiveLeavesOf (n + leafCountOf parts) ps := rfl

theorem Pruned.conjunctiveLeaves (h : Pruned pushed n ps rs) (m : Nat) :
    (conjunctiveLeavesOf m rs).map Prod.snd =
      ((conjunctiveLeavesOf n ps).filter fun leaf => !pushed.contains leaf.1).map Prod.snd := by
  induction h generalizing m with
  | nil => rfl
  | dropped h _ ih => simp [conjunctiveLeavesOf_test, h, ih m]
  | kept h _ ih => simp [conjunctiveLeavesOf_test, h, ih]
  | emptied _ _ ihi ih =>
    rw [conjunctiveLeavesOf_all, List.filter_append, List.map_append, ← ihi m, ← ih m]
    rfl
  | group _ _ _ ihi ih =>
    simp only [conjunctiveLeavesOf_all, List.map_append, List.filter_append, ihi m, ih]
  | any _ ih => simp only [conjunctiveLeavesOf_any, ih]

mutual

def disjunctions : Predicate → List Predicate
  | test _ => []
  | all parts => disjunctionsOf parts
  | any parts => [any parts]

def disjunctionsOf : List Predicate → List Predicate
  | [] => []
  | p :: ps => disjunctions p ++ disjunctionsOf ps

end

theorem Pruned.disjunctions (h : Pruned pushed n ps rs) :
    disjunctionsOf rs = disjunctionsOf ps := by
  induction h with
  | nil => rfl
  | dropped _ _ ih => exact ih
  | kept _ _ ih => exact ih
  | emptied _ _ ihi ih => rw [disjunctionsOf, Predicate.disjunctions, ← ihi, ih]; rfl
  | group _ _ _ ihi ih => simp only [disjunctionsOf, Predicate.disjunctions, ihi, ih]
  | any _ ih => simp only [disjunctionsOf, Predicate.disjunctions, ih]

mutual

def NoEmptyGroup : Predicate → Prop
  | test _ | any _ => True
  | all parts => parts ≠ [] ∧ NoEmptyGroupIn parts

def NoEmptyGroupIn : List Predicate → Prop
  | [] => True
  | p :: ps => NoEmptyGroup p ∧ NoEmptyGroupIn ps

end

theorem Pruned.noEmptyGroup (h : Pruned pushed n ps rs) : NoEmptyGroupIn rs := by
  induction h with
  | nil => trivial
  | dropped _ _ ih => exact ih
  | kept _ _ ih => exact ⟨trivial, ih⟩
  | emptied _ _ _ ih => exact ih
  | group _ h _ ihi ih => exact ⟨⟨h, ihi⟩, ih⟩
  | any _ ih => exact ⟨trivial, ih⟩

theorem Pruned.leafCount (h : Pruned pushed n ps rs) :
    leafCountOf ps = leafCountOf rs +
      ((conjunctiveLeavesOf n ps).filter fun leaf => pushed.contains leaf.1).length := by
  induction h with
  | nil => rfl
  | dropped h _ ih =>
    rw [conjunctiveLeavesOf_test, List.filter_cons_of_pos (by simpa using h), List.length_cons,
      leafCountOf, Predicate.leafCount]
    omega
  | kept h _ ih =>
    rw [conjunctiveLeavesOf_test, List.filter_cons_of_neg (by simpa using h), leafCountOf,
      leafCountOf, Predicate.leafCount]
    omega
  | emptied _ _ ihi ih =>
    simp only [conjunctiveLeavesOf_all, leafCountOf, Predicate.leafCount, List.filter_append,
      List.length_append] at ihi ⊢
    omega
  | group _ _ _ ihi ih =>
    simp only [conjunctiveLeavesOf_all, leafCountOf, Predicate.leafCount, List.filter_append,
      List.length_append]
    omega
  | any _ ih =>
    simp only [conjunctiveLeavesOf_any, leafCountOf, Predicate.leafCount]
    omega

theorem allHold_cons_eq_true {p : Predicate} :
    allHold source (p :: ps) = .ok true ↔
      p.holds source = .ok true ∧ allHold source ps = .ok true := by
  rw [allHold, Outcome.bind_eq_ok]
  constructor
  · rintro ⟨verdict, hp, hps⟩
    cases verdict with
    | false => simp [Outcome.pure_eq_ok] at hps
    | true => exact ⟨hp, by simpa using hps⟩
  · rintro ⟨hp, hps⟩
    exact ⟨true, hp, by simpa using hps⟩

theorem Pruned.holds (h : Pruned pushed n ps rs) :
    allHold source ps = .ok true ↔
      (∀ leaf ∈ conjunctiveLeavesOf n ps, leaf.1 ∈ pushed → leaf.2.holds source = .ok true) ∧
        allHold source rs = .ok true := by
  induction h with
  | nil => simp [conjunctiveLeavesOf]
  | dropped h _ ih =>
    rw [allHold_cons_eq_true, ih, conjunctiveLeavesOf_test, List.forall_mem_cons, and_assoc]
    simp only [Predicate.holds, h, forall_const]
  | kept h _ ih =>
    rw [allHold_cons_eq_true, allHold_cons_eq_true, ih, conjunctiveLeavesOf_test,
      List.forall_mem_cons, and_left_comm]
    simp only [h, false_implies, true_and]
  | emptied _ _ ihi ih =>
    have hnil : allHold source [] = .ok true := rfl
    rw [allHold_cons_eq_true, Predicate.holds, ihi, ih, conjunctiveLeavesOf_all,
      List.forall_mem_append]
    simp only [hnil, and_true, and_assoc]
  | group _ _ _ ihi ih =>
    rw [allHold_cons_eq_true, allHold_cons_eq_true, Predicate.holds, Predicate.holds, ihi, ih,
      conjunctiveLeavesOf_all, List.forall_mem_append, and_and_and_comm]
  | any _ ih =>
    rw [allHold_cons_eq_true, allHold_cons_eq_true, ih, conjunctiveLeavesOf_any, and_left_comm]

theorem bindAll_ne_nil {bs : List Predicate} (h : bindAll params ps = .ok bs) (hps : ps ≠ []) :
    bs ≠ [] := by
  cases ps with
  | nil => contradiction
  | cons p ps =>
    obtain ⟨c, cs, -, -, rfl⟩ := bindAll_cons_eq_ok.mp h
    exact List.cons_ne_nil c cs

theorem Pruned.bind (h : Pruned pushed n ps rs) {bs : List Predicate}
    (hbs : bindAll params ps = .ok bs) :
    ∃ cs, bindAll params rs = .ok cs ∧ Pruned pushed n bs cs := by
  induction h generalizing bs with
  | nil =>
    cases hbs
    exact ⟨[], rfl, .nil⟩
  | dropped h _ ih =>
    obtain ⟨c, cs, hc, hcs, rfl⟩ := bindAll_cons_eq_ok.mp hbs
    obtain ⟨s, -, rfl⟩ := bind_test_eq_ok.mp hc
    obtain ⟨ds, hds, hp⟩ := ih hcs
    exact ⟨ds, hds, .dropped h hp⟩
  | kept h _ ih =>
    obtain ⟨c, cs, hc, hcs, rfl⟩ := bindAll_cons_eq_ok.mp hbs
    obtain ⟨ds, hds, hp⟩ := ih hcs
    obtain ⟨s, -, rfl⟩ := bind_test_eq_ok.mp hc
    exact ⟨test s :: ds, bindAll_cons_eq_ok.mpr ⟨_, ds, hc, hds, rfl⟩, .kept h hp⟩
  | emptied _ _ ihi ih =>
    obtain ⟨c, cs, hc, hcs, rfl⟩ := bindAll_cons_eq_ok.mp hbs
    obtain ⟨parts, hparts, rfl⟩ := bind_all_eq_ok.mp hc
    obtain ⟨_, hnil, hi⟩ := ihi hparts
    cases hnil
    obtain ⟨ds, hds, hp⟩ := ih hcs
    exact ⟨ds, hds, .emptied hi (leafCountOf_bindAll _ hparts ▸ hp)⟩
  | group _ h _ ihi ih =>
    obtain ⟨c, cs, hc, hcs, rfl⟩ := bindAll_cons_eq_ok.mp hbs
    obtain ⟨parts, hparts, rfl⟩ := bind_all_eq_ok.mp hc
    obtain ⟨left, hleft, hi⟩ := ihi hparts
    obtain ⟨ds, hds, hp⟩ := ih hcs
    refine ⟨Predicate.all left :: ds, ?_, .group hi (bindAll_ne_nil hleft h) ?_⟩
    · exact bindAll_cons_eq_ok.mpr ⟨_, ds, bind_all_eq_ok.mpr ⟨left, hleft, rfl⟩, hds, rfl⟩
    · exact leafCountOf_bindAll _ hparts ▸ hp
  | any _ ih =>
    obtain ⟨c, cs, hc, hcs, rfl⟩ := bindAll_cons_eq_ok.mp hbs
    obtain ⟨ds, hds, hp⟩ := ih hcs
    obtain ⟨parts, hparts, rfl⟩ := bind_any_eq_ok.mp hc
    refine ⟨Predicate.any parts :: ds, bindAll_cons_eq_ok.mpr ⟨_, ds, hc, hds, rfl⟩, .any ?_⟩
    exact leafCountOf_bindAll _ hparts ▸ hp

end Predicate

namespace Query

open Predicate

/-- `r` asks what is left of `q` once the leaves at the positions in `pushed` are gone. -/
structure IsReduction (q : Query) (pushed : List LeafId) (r : Query) : Prop where
  places : ∀ leaf ∈ q.conjunctiveLeaves, (leavesOf q.filter)[leaf.1]? = some leaf.2
  ascending : (q.conjunctiveLeaves.map Prod.fst).Pairwise (· < ·)
  conjunctive : r.conjunctiveLeaves.map Prod.snd =
    (q.conjunctiveLeaves.filter fun leaf => !pushed.contains leaf.1).map Prod.snd
  disjunctive : disjunctionsOf r.filter = disjunctionsOf q.filter
  packed : NoEmptyGroupIn r.filter
  frame : r.resource = q.resource ∧ r.fields = q.fields ∧ r.limit = q.limit ∧ r.start = q.start
  removed : leafCountOf q.filter = leafCountOf r.filter +
    (q.conjunctiveLeaves.filter fun leaf => pushed.contains leaf.1).length
  verdict : ∀ source, allHold source q.filter = .ok true ↔
    (∀ leaf ∈ q.conjunctiveLeaves, leaf.1 ∈ pushed → leaf.2.holds source = .ok true) ∧
      allHold source r.filter = .ok true

theorem reduce_pruned (q : Query) (pushed : List LeafId) :
    Pruned pushed 0 q.filter (q.reduce pushed).filter := pruned_pruneAll 0 q.filter

theorem conjunctiveLeaves_place (q : Query) {leaf : LeafId × FieldTest}
    (h : leaf ∈ q.conjunctiveLeaves) : (leavesOf q.filter)[leaf.1]? = some leaf.2 := by
  obtain ⟨i, hi, ht⟩ := conjunctiveLeavesOf_place 0 q.filter leaf.1 leaf.2 h
  rw [hi, Nat.zero_add]
  exact ht

theorem bind_eq_ok {q b : Query} {params : List Value} :
    q.bind params = .ok b ↔
      ∃ bs, bindAll params q.filter = .ok bs ∧ b = { q with filter := bs } := by
  simp only [Query.bind, Outcome.bind_eq_ok, Outcome.pure_eq_ok]

theorem bind_reduce {q b : Query} {params : List Value} (h : q.bind params = .ok b)
    (pushed : List LeafId) : (q.reduce pushed).bind params = .ok (b.reduce pushed) := by
  obtain ⟨bs, hbs, rfl⟩ := bind_eq_ok.mp h
  obtain ⟨cs, hcs, hp⟩ := (q.reduce_pruned pushed).bind hbs
  refine bind_eq_ok.mpr ⟨cs, hcs, ?_⟩
  rw [hp.eq]
  rfl

/-- Reducing removes the leaves at the given positions and nothing else, and it makes no
difference whether parameters are bound before or after. -/
theorem reduce_isReduction (q : Query) (pushed : List LeafId) :
    q.IsReduction pushed (q.reduce pushed) ∧
      ∀ params b, q.bind params = .ok b →
        (q.reduce pushed).bind params = .ok (b.reduce pushed) := by
  have h := q.reduce_pruned pushed
  refine ⟨?_, fun params b hb => bind_reduce hb pushed⟩
  exact {
    places := fun _ hleaf => q.conjunctiveLeaves_place hleaf
    ascending := conjunctiveLeavesOf_ascending 0 q.filter
    conjunctive := h.conjunctiveLeaves 0
    disjunctive := h.disjunctions
    packed := h.noEmptyGroup
    frame := ⟨rfl, rfl, rfl, rfl⟩
    removed := h.leafCount
    verdict := fun _ => h.holds }

def straddled : Query :=
  { resource := "user"
    filter := [
      .all [.test ⟨"age", .compare .gt, .parameter 0⟩],
      .any [.test ⟨"status", .notEqual, .parameter 0⟩],
      .test ⟨"name", .compare .eq, .value (.text "A")⟩] }

theorem reduce_isReduction_straddled : ∃ b, straddled.bind [.int 7] = .ok b ∧
    (straddled.reduce [0, 2]).bind [.int 7] = .ok (b.reduce [0, 2]) ∧
      (straddled.reduce [0, 2]).filter = [.any [.test ⟨"status", .notEqual, .parameter 0⟩]] := by
  have hbind : ∃ b, straddled.bind [.int 7] = .ok b := ⟨_, rfl⟩
  obtain ⟨b, hb⟩ := hbind
  exact ⟨b, hb, (reduce_isReduction straddled [0, 2]).2 _ b hb, rfl⟩

end Query

end WideColumn

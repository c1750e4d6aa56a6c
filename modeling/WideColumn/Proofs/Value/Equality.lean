import Mathlib.Data.List.Forall2
import WideColumn.Proofs.Number.Rounding
import WideColumn.Value.Compare

namespace WideColumn

namespace Double

theorem sameNumber_iff {x y : Double} :
    x.sameNumber y = true ↔
      x.isNaN = false ∧ y.isNaN = false ∧ x.numericKey = y.numericKey := by
  rw [sameNumber, numericCompare]
  cases x.isNaN <;> cases y.isNaN <;> simp

theorem sameNumber_self {x : Double} (h : x.isNaN = false) : x.sameNumber x = true :=
  sameNumber_iff.mpr ⟨h, h, rfl⟩

theorem sameNumber_comm (x y : Double) : x.sameNumber y = y.sameNumber x := by
  rw [Bool.eq_iff_iff, sameNumber_iff, sameNumber_iff, and_left_comm, eq_comm (a := x.numericKey)]

theorem sameNumber_trans {x y z : Double} (hxy : x.sameNumber y = true)
    (hyz : y.sameNumber z = true) : x.sameNumber z = true := by
  rw [sameNumber_iff] at *
  exact ⟨hxy.1, hyz.2.1, hxy.2.2.trans hyz.2.2⟩

theorem eq_of_sameNumber {i j : Int64} {x : Double} (hi : (ofInt64 i).sameNumber x = true)
    (hj : x.sameNumber (ofInt64 j) = true)
    (h : i.toInt.natAbs < exactLimit ∨ j.toInt.natAbs < exactLimit) : i = j := by
  have hkey := (sameNumber_iff.mp (sameNumber_trans hi hj)).2.2
  rcases h with h | h
  · exact (eq_of_numericKey_ofInt64 h hkey.symm).symm
  · exact eq_of_numericKey_ofInt64 h hkey

end Double

namespace Value

mutual

theorem same_comm : ∀ a b : Value, same a b = same b a
  | null, b | bool _, b | int _, b | text _, b | blob _, b | timestamp _, b | enum _, b
  | type _, b => by cases b <;> simp only [same, BEq.comm]
  | double _, b => by cases b <;> simp only [same, Double.sameNumber_comm]
  | list as, b | set as, b => by cases b <;> simp only [same, sameItems_comm as]
  | map as, b => by cases b <;> simp only [same, sameEntries_comm as]

theorem sameItems_comm : ∀ as bs : List Value, sameItems as bs = sameItems bs as
  | [], [] => rfl
  | [], _ :: _ => rfl
  | _ :: _, [] => rfl
  | a :: as, b :: bs => by simp only [sameItems, same_comm a b, sameItems_comm as bs]

theorem sameEntries_comm : ∀ as bs : List (Value × Value), sameEntries as bs = sameEntries bs as
  | [], [] => rfl
  | [], _ :: _ => rfl
  | _ :: _, [] => rfl
  | (k, v) :: as, (l, w) :: bs => by
    simp only [sameEntries, same_comm k l, same_comm v w, sameEntries_comm as bs]

end

mutual

theorem same_trans : ∀ a {b c : Value}, same a b = true → same b c = true → same a c = true
  | null, b, c, hab, hbc => by
    cases b with
    | null => exact hbc
    | _ => simp [same] at hab
  | bool _, b, c, hab, hbc | int _, b, c, hab, hbc | text _, b, c, hab, hbc
  | blob _, b, c, hab, hbc | timestamp _, b, c, hab, hbc | enum _, b, c, hab, hbc
  | type _, b, c, hab, hbc => by
    cases b <;> simp only [same, Bool.false_eq_true, beq_iff_eq] at hab
    rw [hab]
    exact hbc
  | double _, b, c, hab, hbc => by
    cases b <;> simp only [same, Bool.false_eq_true] at hab
    cases c <;> simp only [same, Bool.false_eq_true] at hbc
    exact Double.sameNumber_trans hab hbc
  | list as, b, c, hab, hbc | set as, b, c, hab, hbc => by
    cases b <;> simp only [same, Bool.false_eq_true] at hab
    cases c <;> simp only [same, Bool.false_eq_true] at hbc
    exact sameItems_trans as hab hbc
  | map as, b, c, hab, hbc => by
    cases b <;> simp only [same, Bool.false_eq_true] at hab
    cases c <;> simp only [same, Bool.false_eq_true] at hbc
    exact sameEntries_trans as hab hbc

theorem sameItems_trans : ∀ as {bs cs : List Value},
    sameItems as bs = true → sameItems bs cs = true → sameItems as cs = true
  | [], bs, cs, hab, hbc => by
    cases bs with
    | nil => exact hbc
    | cons b bs => simp [sameItems] at hab
  | a :: as, bs, cs, hab, hbc => by
    cases bs with
    | nil => simp [sameItems] at hab
    | cons b bs =>
      cases cs with
      | nil => simp [sameItems] at hbc
      | cons c cs =>
        simp only [sameItems, Bool.and_eq_true] at hab hbc ⊢
        exact ⟨same_trans a hab.1 hbc.1, sameItems_trans as hab.2 hbc.2⟩

theorem sameEntries_trans : ∀ as {bs cs : List (Value × Value)},
    sameEntries as bs = true → sameEntries bs cs = true → sameEntries as cs = true
  | [], bs, cs, hab, hbc => by
    cases bs with
    | nil => exact hbc
    | cons b bs => simp [sameEntries] at hab
  | (k, v) :: as, bs, cs, hab, hbc => by
    cases bs with
    | nil => simp [sameEntries] at hab
    | cons b bs =>
      cases cs with
      | nil => simp [sameEntries] at hbc
      | cons c cs =>
        simp only [sameEntries, Bool.and_eq_true] at hab hbc ⊢
        exact ⟨⟨same_trans k hab.1.1 hbc.1.1, same_trans v hab.1.2 hbc.1.2⟩,
          sameEntries_trans as hab.2 hbc.2⟩

end

mutual

def isExact : Value → Bool
  | int i => i.toInt.natAbs < Double.exactLimit
  | list items | set items => areExact items
  | _ => true

def areExact : List Value → Bool
  | [] => true
  | v :: vs => isExact v && areExact vs

end

theorem areExact_iff {vs : List Value} : areExact vs = true ↔ ∀ v ∈ vs, v.isExact = true := by
  induction vs with
  | nil => simp [areExact]
  | cons v vs ih => rw [areExact, Bool.and_eq_true, List.forall_mem_cons, ih]

theorem looseCovered_iff {as bs : List Value} :
    looseCovered as bs = true ↔ ∀ a ∈ as, ∃ b ∈ bs, a.looseEq b = true := by
  induction as with
  | nil => simp [looseCovered]
  | cons a as ih => rw [looseCovered, Bool.and_eq_true, List.any_eq_true, List.forall_mem_cons, ih]

theorem looseEqItems_iff {as bs : List Value} :
    looseEqItems as bs = true ↔ List.Forall₂ (fun a b => a.looseEq b = true) as bs := by
  induction as generalizing bs with
  | nil => cases bs <;> simp [looseEqItems]
  | cons a as ih => cases bs <;> simp [looseEqItems, ih]

theorem looseEq_comm {a : Value} (b : Value) (ha : a.asSequence = none) :
    a.looseEq b = b.looseEq a := by
  cases a with
  | list _ => contradiction
  | set _ => contradiction
  | int _ => cases b <;> simp only [looseEq, same, Double.sameNumber_comm, BEq.comm]
  | double _ => cases b <;> simp only [looseEq, same, Double.sameNumber_comm]
  | enum _ => cases b <;> simp only [looseEq, same, BEq.comm]
  | _ => cases b <;> simp only [looseEq, same_comm]

theorem asSequence_of_looseEq {a v : Value} (ha : a.asSequence = none) (h : a.looseEq v = true) :
    v.asSequence = none := by
  cases a <;> cases v <;> simp_all [looseEq, same, asSequence]

mutual

theorem looseEq_trans : ∀ (a : Value) {b c : Value}, (a.isExact = true ∨ c.isExact = true) →
    a.looseEq b = true → b.looseEq c = true → a.looseEq c = true
  | int i, b, c, he, hab, hbc => by
    cases b <;> simp only [looseEq, same, Bool.false_eq_true, beq_iff_eq] at hab
    · rw [hab]
      exact hbc
    · cases c <;> simp only [looseEq, same, Bool.false_eq_true] at hbc ⊢
      · rw [beq_iff_eq]
        exact Double.eq_of_sameNumber hab hbc (by simpa [isExact] using he)
      · exact Double.sameNumber_trans hab hbc
  | double x, b, c, _, hab, hbc => by
    cases b <;> simp only [looseEq, same, Bool.false_eq_true] at hab
    · cases c <;> simp only [looseEq, same, Bool.false_eq_true, beq_iff_eq] at hbc ⊢
      · rw [← hbc]
        exact hab
      · exact Double.sameNumber_trans hab hbc
    · cases c <;> simp only [looseEq, same, Bool.false_eq_true] at hbc ⊢
      · exact Double.sameNumber_trans hab hbc
      · exact Double.sameNumber_trans hab hbc
  | enum e, b, c, _, hab, hbc => by
    cases b <;> simp only [looseEq, same, Bool.false_eq_true, beq_iff_eq] at hab
    cases c <;> simp only [looseEq, same, Bool.false_eq_true, beq_iff_eq] at hbc ⊢
    exact hab.trans hbc
  | list as, b, c, he, hab, hbc => by
    cases b <;> simp only [looseEq, same, Bool.false_eq_true] at hab
    cases c <;> simp only [looseEq, same, Bool.false_eq_true] at hbc ⊢
    exact looseEqItems_trans as (by simpa [isExact] using he) hab hbc
  | set as, b, c, he, hab, hbc => by
    cases b <;> simp only [looseEq, same, Bool.false_eq_true, Bool.and_eq_true, beq_iff_eq] at hab
    cases c <;> simp only [looseEq, same, Bool.false_eq_true, Bool.and_eq_true, beq_iff_eq] at hbc ⊢
    exact ⟨hab.1.trans hbc.1, looseCovered_trans as (by simpa [isExact] using he) hab.2 hbc.2⟩
  | null, b, c, _, hab, hbc => by
    cases b with
    | null => exact hbc
    | _ => simp [looseEq, same] at hab
  | bool _, b, c, _, hab, hbc | text _, b, c, _, hab, hbc | blob _, b, c, _, hab, hbc
  | timestamp _, b, c, _, hab, hbc | type _, b, c, _, hab, hbc => by
    cases b <;> simp only [looseEq, same, Bool.false_eq_true, beq_iff_eq] at hab
    rw [hab]
    exact hbc
  | map as, b, c, _, hab, hbc => by
    cases b <;> simp only [looseEq, same, Bool.false_eq_true] at hab
    cases c <;> simp only [looseEq, same, Bool.false_eq_true] at hbc ⊢
    exact sameEntries_trans as hab hbc

theorem looseEqItems_trans : ∀ (as : List Value) {bs cs : List Value},
    (areExact as = true ∨ areExact cs = true) → looseEqItems as bs = true →
      looseEqItems bs cs = true → looseEqItems as cs = true
  | [], bs, cs, _, hab, hbc => by
    cases bs with
    | nil => exact hbc
    | cons b bs => simp [looseEqItems] at hab
  | a :: as, bs, cs, he, hab, hbc => by
    cases bs with
    | nil => simp [looseEqItems] at hab
    | cons b bs =>
      cases cs with
      | nil => simp [looseEqItems] at hbc
      | cons c cs =>
        simp only [looseEqItems, areExact, Bool.and_eq_true] at he hab hbc ⊢
        exact ⟨looseEq_trans a (he.imp And.left And.left) hab.1 hbc.1,
          looseEqItems_trans as (he.imp And.right And.right) hab.2 hbc.2⟩

theorem looseCovered_trans : ∀ (as : List Value) {bs cs : List Value},
    (areExact as = true ∨ areExact cs = true) → looseCovered as bs = true →
      looseCovered bs cs = true → looseCovered as cs = true
  | [], _, _, _, _, _ => rfl
  | a :: as, bs, cs, he, hab, hbc => by
    simp only [looseCovered, areExact, Bool.and_eq_true, List.any_eq_true] at he hab ⊢
    obtain ⟨⟨b, hb, hab⟩, hrest⟩ := hab
    obtain ⟨c, hc, hbc'⟩ := looseCovered_iff.mp hbc b hb
    constructor
    · refine ⟨c, hc, ?_⟩
      exact looseEq_trans a (he.imp And.left fun h => areExact_iff.mp h c hc) hab hbc'
    · exact looseCovered_trans as (he.imp_left And.right) hrest hbc

end

end Value

end WideColumn

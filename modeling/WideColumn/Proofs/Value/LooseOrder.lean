import WideColumn.Proofs.Value.Idempotence

namespace WideColumn.Value

section Partners

variable {α β : Type} {R : α → β → Prop}

theorem exists_partner {xs : List α} {ys : List β}
    (hpair : ∀ y ∈ ys, xs.Pairwise fun x x' => ¬(R x y ∧ R x' y))
    (hcover : ∀ x ∈ xs, ∃ y ∈ ys, R x y) (hlength : ys.length ≤ xs.length) :
    ∀ y ∈ ys, ∃ x ∈ xs, R x y := by
  induction xs generalizing ys with
  | nil =>
    rw [List.length_eq_zero_iff.mp (Nat.le_zero.mp hlength)]
    exact List.forall_mem_nil _
  | cons x xs ih =>
    obtain ⟨⟨z, hz, hxz⟩, hcovers⟩ := List.forall_mem_cons.mp hcover
    obtain ⟨s, t, rfl⟩ := List.append_of_mem hz
    -- the partner of `x` is taken, so the others have theirs among the rest
    have hrest : ∀ x' ∈ xs, ∃ y ∈ s ++ t, R x' y := by
      intro x' hx'
      obtain ⟨y, hy, hx'y⟩ := hcovers x' hx'
      refine ⟨y, ?_, hx'y⟩
      rcases List.mem_cons.mp (List.perm_middle.mem_iff.mp hy) with rfl | hy
      · exact absurd ⟨hxz, hx'y⟩ ((List.pairwise_cons.mp (hpair y hz)).1 x' hx')
      · exact hy
    have hpairs : ∀ y ∈ s ++ t, xs.Pairwise fun x x' => ¬(R x y ∧ R x' y) := fun y hy =>
      (hpair y (List.perm_middle.mem_iff.mpr (List.mem_cons_of_mem z hy))).of_cons
    have hlengths : (s ++ t).length ≤ xs.length := by
      rw [List.perm_middle.length_eq, List.length_cons, List.length_cons] at hlength
      exact Nat.le_of_succ_le_succ hlength
    intro y hy
    rcases List.mem_cons.mp (List.perm_middle.mem_iff.mp hy) with rfl | hy
    · exact ⟨x, List.mem_cons_self, hxz⟩
    · obtain ⟨x', hx', hx'y⟩ := ih hpairs hrest hlengths y hy
      exact ⟨x', List.mem_cons_of_mem x hx', hx'y⟩

end Partners

section Places

variable {S : Value → Prop} (hcomp : ComposesOn canonicalCompare S)

include hcomp

theorem lt_of_lt_of_eq {a b c : Value} (ha : S a) (hb : S b) (hc : S c)
    (hab : canonicalCompare a b = .lt) (hbc : canonicalCompare b c = .eq) :
    canonicalCompare a c = .lt := by
  rw [hcomp a b c ha hb hc (hab ▸ rfl) (hbc ▸ rfl), hab]
  rfl

theorem pairwise_not_both {xs : List Value} (hxs : ∀ x ∈ xs, S x)
    (h : xs.Pairwise fun a b => canonicalCompare a b = .lt) {y : Value} (hy : S y) :
    xs.Pairwise fun x x' => ¬(canonicalCompare x y = .eq ∧ canonicalCompare x' y = .eq) := by
  refine h.imp_of_mem fun {x x'} hx hx' hlt => ?_
  rintro ⟨hxy, hx'y⟩
  have hyx' : canonicalCompare y x' = .eq := Std.OrientedCmp.eq_symm hx'y
  have hxx' := hcomp x y x' (hxs x hx) hy (hxs x' hx') (hxy ▸ rfl) (hyx' ▸ rfl)
  rw [hlt, hxy, hyx'] at hxx'
  contradiction

theorem canonicalCompareItems_eq {xs ys : List Value} (hSx : ∀ x ∈ xs, S x) (hSy : ∀ y ∈ ys, S y)
    (hxs : xs.Pairwise fun a b => canonicalCompare a b = .lt)
    (hys : ys.Pairwise fun a b => canonicalCompare a b = .lt)
    (hxy : ∀ x ∈ xs, ∃ y ∈ ys, canonicalCompare x y = .eq)
    (hyx : ∀ y ∈ ys, ∃ x ∈ xs, canonicalCompare x y = .eq) :
    canonicalCompareItems xs ys = .eq := by
  induction xs generalizing ys with
  | nil =>
    cases ys with
    | nil => rfl
    | cons y ys =>
      obtain ⟨x, hx, -⟩ := hyx y List.mem_cons_self
      exact absurd hx List.not_mem_nil
  | cons x xs ih =>
    cases ys with
    | nil =>
      obtain ⟨y, hy, -⟩ := hxy x List.mem_cons_self
      exact absurd hy List.not_mem_nil
    | cons y ys =>
      obtain ⟨hSx₀, hSxs⟩ := List.forall_mem_cons.mp hSx
      obtain ⟨hSy₀, hSys⟩ := List.forall_mem_cons.mp hSy
      obtain ⟨hx, hxs'⟩ := List.pairwise_cons.mp hxs
      obtain ⟨hy, hys'⟩ := List.pairwise_cons.mp hys
      -- were the first elements apart, each would be below the other
      have hhead : canonicalCompare x y = .eq := by
        obtain ⟨y', hy', hxy'⟩ := hxy x List.mem_cons_self
        obtain ⟨x', hx', hx'y⟩ := hyx y List.mem_cons_self
        rcases List.mem_cons.mp hy' with rfl | hy'
        · exact hxy'
        rcases List.mem_cons.mp hx' with rfl | hx'
        · exact hx'y
        have hlt := lt_of_lt_of_eq hcomp hSx₀ (hSxs x' hx') hSy₀ (hx x' hx') hx'y
        have hgt := lt_of_lt_of_eq hcomp hSy₀ (hSys y' hy') hSx₀ (hy y' hy')
          (Std.OrientedCmp.eq_symm hxy')
        exact absurd hgt (Std.OrientedCmp.not_lt_of_lt hlt)
      have hnotx := (List.pairwise_cons.mp (pairwise_not_both hcomp hSx hxs hSy₀)).1
      have hnoty := (List.pairwise_cons.mp (pairwise_not_both hcomp hSy hys hSx₀)).1
      rw [canonicalCompareItems, hhead]
      refine ih hSxs hSys hxs' hys' (fun x' hx' => ?_) fun y' hy' => ?_
      · obtain ⟨y', hy', hx'y'⟩ := hxy x' (List.mem_cons_of_mem x hx')
        rcases List.mem_cons.mp hy' with rfl | hy'
        · exact absurd ⟨hhead, hx'y'⟩ (hnotx x' hx')
        · exact ⟨y', hy', hx'y'⟩
      · obtain ⟨x', hx', hx'y'⟩ := hyx y' (List.mem_cons_of_mem y hy')
        rcases List.mem_cons.mp hx' with rfl | hx'
        · exact absurd ⟨Std.OrientedCmp.eq_symm hhead, Std.OrientedCmp.eq_symm hx'y'⟩
            (hnoty y' hy')
        · exact ⟨x', hx', hx'y'⟩

end Places

def MixesZeros (v : Value) : Prop :=
  (double .negativeZero).Within v ∧ ((double .zero).Within v ∨ (int 0).Within v)

section Scalars

theorem canonicalCompare_self (v : Value) : canonicalCompare v v = .eq :=
  Std.ReflCmp.compare_self

theorem eq_of_same {a b : Value} (hcollection : a.isCollection = false)
    (hnumber : a.isNumber = false) (h : same a b = true) : a = b := by
  cases a <;> cases b <;> simp_all [same, isCollection, isNumber]

theorem looseEq_eq_same {a b : Value} (hcollection : a.isCollection = false)
    (hnumber : a.isNumber = false) (hnative : a.isNative = true) : a.looseEq b = same a b := by
  cases a <;> first | contradiction | (cases b <;> rfl)

theorem looseEq_of_same {m n : Value} (hm : m.isNumber = true) (h : same m n = true) :
    m.looseEq n = true := by
  cases m <;> cases n <;> first | contradiction | exact h

theorem isNumber_of_looseEq {m n : Value} (hm : m.isNumber = true) (h : m.looseEq n = true) :
    n.isNumber = true := by
  cases m <;> cases n <;> first | contradiction | rfl

end Scalars

section Numbers

variable {v : Value} (hzeros : ¬v.MixesZeros) {m n : Value} (hm : v.IsNumberOf m)
  (hn : v.IsNumberOf n)

include hzeros hm hn

theorem canonicalCompare_of_looseEq_numbers (h : m.looseEq n = true) :
    canonicalCompare m n = .eq := by
  obtain ⟨hm, hmv⟩ := hm
  obtain ⟨hn, hnv⟩ := hn
  cases m <;> try contradiction
  all_goals cases n <;> try contradiction
  case int.int i j =>
    rw [show i = j from beq_iff_eq.mp h]
    exact canonicalCompare_self (int j)
  case int.double i x =>
    rcases Double.eq_or_zeros_of_numericKey (Double.sameNumber_iff.mp h).2.2 with
      rfl | ⟨hi, -⟩ | ⟨hi, rfl⟩
    · exact canonicalCompare_self (double (.ofInt64 i))
    · exact absurd hi (Double.ofInt64_ne_negativeZero i)
    · cases Double.eq_zero_of_ofInt64 hi
      exact absurd ⟨hnv, .inr hmv⟩ hzeros
  case double.int x i =>
    rcases Double.eq_or_zeros_of_numericKey (Double.sameNumber_iff.mp h).2.2 with
      rfl | ⟨rfl, hi⟩ | ⟨-, hi⟩
    · exact canonicalCompare_self (double (.ofInt64 i))
    · cases Double.eq_zero_of_ofInt64 hi
      exact absurd ⟨hmv, .inr hnv⟩ hzeros
    · exact absurd hi (Double.ofInt64_ne_negativeZero i)
  case double.double x y =>
    rcases Double.eq_or_zeros_of_numericKey (Double.sameNumber_iff.mp h).2.2 with
      rfl | ⟨rfl, rfl⟩ | ⟨rfl, rfl⟩
    · exact canonicalCompare_self (double x)
    · exact absurd ⟨hmv, .inl hnv⟩ hzeros
    · exact absurd ⟨hnv, .inl hmv⟩ hzeros

end Numbers

section Pointwise

theorem canonicalCompareItems_of_forall₂ {R : Value → Value → Prop} {as bs : List Value}
    (hR : List.Forall₂ R as bs)
    (h : ∀ a ∈ as, ∀ b ∈ bs, R a b → canonicalCompare a b = .eq) :
    canonicalCompareItems as bs = .eq := by
  induction hR with
  | nil => rfl
  | cons hab _ ih =>
    rw [canonicalCompareItems, h _ List.mem_cons_self _ List.mem_cons_self hab]
    exact ih fun x hx y hy => h x (List.mem_cons_of_mem _ hx) y (List.mem_cons_of_mem _ hy)

theorem forall₂_of_sameItems {as bs : List Value} (h : sameItems as bs = true) :
    List.Forall₂ (fun a b => same a b = true) as bs := by
  induction as generalizing bs with
  | nil => cases bs <;> first | exact .nil | contradiction
  | cons a as ih =>
    cases bs with
    | nil => contradiction
    | cons b bs =>
      rw [sameItems, Bool.and_eq_true] at h
      exact .cons h.1 (ih h.2)

theorem sameEntries_eq (es fs : List (Value × Value)) :
    sameEntries es fs = sameItems (map es).parts (map fs).parts := by
  induction es generalizing fs with
  | nil => cases fs <;> rfl
  | cons e es ih =>
    cases fs with
    | nil => rfl
    | cons f fs =>
      rw [sameEntries, ih, Bool.and_assoc]
      rfl

theorem sameItems_parts {a b : Value} (ha : a.isCollection = true) (h : same a b = true) :
    a.rank = b.rank ∧ sameItems a.parts b.parts = true := by
  cases a <;> try contradiction
  all_goals cases b <;> try contradiction
  case map.map es fs => exact ⟨rfl, sameEntries_eq es fs ▸ h⟩
  all_goals exact ⟨rfl, h⟩

end Pointwise

section Coerced

variable {v : Value} (hv : v.IsCommensurable) (hzeros : ¬v.MixesZeros)

theorem numbersIn_of_within_coerce {u : Value} (h : u.Within v.coerce) :
    NumbersIn v.IsNumberOf u :=
  (numbersIn_coerce .self).of_within h

theorem isNative_of_within_coerce {u : Value} (h : u.Within v.coerce) : u.isNative = true := by
  obtain ⟨w, -, rfl⟩ := exists_of_within_coerce h
  exact isNative_coerce w

section Same

include hzeros

theorem canonicalCompare_of_looseEq_scalar {a b : Value} (hcollection : a.isCollection = false)
    (ha : a.Within v.coerce) (hb : b.Within v.coerce) (h : a.looseEq b = true) :
    canonicalCompare a b = .eq := by
  cases hnumber : a.isNumber with
  | true =>
    exact canonicalCompare_of_looseEq_numbers hzeros
      (numbersIn_of_within_coerce ha a .self hnumber)
      (numbersIn_of_within_coerce hb b .self (isNumber_of_looseEq hnumber h)) h
  | false =>
    rw [looseEq_eq_same hcollection hnumber (isNative_of_within_coerce ha)] at h
    rw [eq_of_same hcollection hnumber h]
    exact canonicalCompare_self b

theorem canonicalCompare_of_same (a b : Value) (ha : a.Within v.coerce) (hb : b.Within v.coerce)
    (h : same a b = true) : canonicalCompare a b = .eq := by
  induction a using induction_on_parts generalizing b with
  | step a ih =>
    cases hcollection : a.isCollection with
    | true =>
      obtain ⟨hrank, hparts⟩ := sameItems_parts hcollection h
      rw [canonicalCompare_of_collection hcollection hrank]
      exact canonicalCompareItems_of_forall₂ (forall₂_of_sameItems hparts) fun x hx y hy hxy =>
        ih x hx y ((Within.of_part hx).trans ha) ((Within.of_part hy).trans hb) hxy
    | false =>
      refine canonicalCompare_of_looseEq_scalar hzeros hcollection ha hb ?_
      cases hnumber : a.isNumber with
      | true => exact looseEq_of_same hnumber h
      | false => rwa [looseEq_eq_same hcollection hnumber (isNative_of_within_coerce ha)]

end Same

include hv hzeros

/-- What is loosely equal has one place. For sets that takes both covers: the sets ascend, so that
no two elements of one can be loosely equal to one element of the other. -/
theorem canonicalCompare_of_looseEq (a b : Value) (ha : a.Within v.coerce)
    (hb : b.Within v.coerce) (h : a.looseEq b = true) : canonicalCompare a b = .eq := by
  induction a using induction_on_parts generalizing b with
  | step a ih =>
    have hparts : ∀ x ∈ a.parts, ∀ y ∈ b.parts, x.looseEq y = true →
        canonicalCompare x y = .eq := fun x hx y hy =>
      ih x hx y ((Within.of_part hx).trans ha) ((Within.of_part hy).trans hb)
    cases a with
    | list as =>
      cases b <;> try contradiction
      exact canonicalCompareItems_of_forall₂ (looseEqItems_iff.mp h) hparts
    | set as =>
      cases b <;> try contradiction
      rename_i bs
      rw [looseEq, Bool.and_eq_true, beq_iff_eq, looseCovered_iff] at h
      have hcovers : ∀ x ∈ as, ∃ y ∈ bs, canonicalCompare x y = .eq := fun x hx =>
        (h.2 x hx).imp fun y hy => ⟨hy.1, hparts x hx y hy.1 hy.2⟩
      have hSa : ∀ x ∈ as, NumbersIn v.IsNumberOf x := fun x hx =>
        numbersIn_of_within_coerce ((Within.of_part hx).trans ha)
      have hSb : ∀ y ∈ bs, NumbersIn v.IsNumberOf y := fun y hy =>
        numbersIn_of_within_coerce ((Within.of_part hy).trans hb)
      have has := set_pairwise_of_within_coerce hv ha
      have hbs := set_pairwise_of_within_coerce hv hb
      have hback := exists_partner (fun y hy => pairwise_not_both hv.composesOn hSa has (hSb y hy))
        hcovers h.1.ge
      exact canonicalCompareItems_eq hv.composesOn hSa hSb has hbs hcovers hback
    | map es =>
      cases b <;> try contradiction
      exact canonicalCompare_of_same hzeros _ _ ha hb h
    | _ => exact canonicalCompare_of_looseEq_scalar hzeros rfl ha hb h

end Coerced

end WideColumn.Value

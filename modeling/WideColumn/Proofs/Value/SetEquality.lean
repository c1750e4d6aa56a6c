import WideColumn.Proofs.Value.LooseOrder

/-!
Loose equality of sets. It asks only that they have as many elements and that the first covers the
second. That serves both sides as long as no element of the one is loosely equal to two of the
other, and then loose equality is symmetric at every depth. Coercion sees to it wherever what is
loosely equal has one place in the canonical order.
-/

namespace WideColumn.Value

/-- No element of a set within `b` is loosely equal to two elements of one set within `a`. -/
def Distinguishes (a b : Value) : Prop :=
  ∀ xs ys, (set xs).Within a → (set ys).Within b →
    ∀ y ∈ ys, xs.Pairwise fun x x' => ¬(x.looseEq y = true ∧ x'.looseEq y = true)

namespace Distinguishes

variable {a b x z : Value}

theorem of_within (h : Distinguishes a b) (hx : x.Within a) (hz : z.Within b) :
    Distinguishes x z :=
  fun xs ys hxs hys => h xs ys (hxs.trans hx) (hys.trans hz)

theorem covered_back {xs ys : List Value} (h : Distinguishes (set xs) (set ys))
    (hloose : (set xs).looseEq (set ys) = true) : ∀ y ∈ ys, ∃ x ∈ xs, x.looseEq y = true := by
  rw [looseEq, Bool.and_eq_true, beq_iff_eq, looseCovered_iff] at hloose
  exact exists_partner (h xs ys .self .self) hloose.2 hloose.1.ge

end Distinguishes

theorem looseEqItems_comm {as : List Value} {bs : List Value}
    (h : ∀ a ∈ as, ∀ b ∈ bs, a.looseEq b = b.looseEq a) :
    looseEqItems as bs = looseEqItems bs as := by
  induction as generalizing bs with
  | nil => cases bs <;> rfl
  | cons a as ih =>
    cases bs with
    | nil => rfl
    | cons b bs =>
      obtain ⟨ha, has⟩ := List.forall_mem_cons.mp h
      rw [looseEqItems, looseEqItems, ha b List.mem_cons_self,
        ih fun x hx y hy => has x hx y (List.mem_cons_of_mem b hy)]

theorem looseEq_set_comm_imp {xs ys : List Value} (h : Distinguishes (set xs) (set ys))
    (hcomm : ∀ x ∈ xs, ∀ y ∈ ys, x.looseEq y = y.looseEq x)
    (hloose : (set xs).looseEq (set ys) = true) : (set ys).looseEq (set xs) = true := by
  have hback := h.covered_back hloose
  rw [looseEq, Bool.and_eq_true, beq_iff_eq, looseCovered_iff] at hloose ⊢
  refine ⟨hloose.1.symm, fun y hy => ?_⟩
  obtain ⟨x, hx, hxy⟩ := hback y hy
  exact ⟨x, hx, (hcomm x hx y hy).symm.trans hxy⟩

theorem looseEq_comm_of_distinguishes (a b : Value) (hab : Distinguishes a b)
    (hba : Distinguishes b a) : a.looseEq b = b.looseEq a := by
  induction a using induction_on_parts generalizing b with
  | step a ih =>
    have hparts : ∀ x ∈ a.parts, ∀ y ∈ b.parts, x.looseEq y = y.looseEq x := by
      intro x hx y hy
      exact ih x hx y (hab.of_within (.of_part hx) (.of_part hy))
        (hba.of_within (.of_part hy) (.of_part hx))
    cases a with
    | list as =>
      cases b with
      | list bs => exact looseEqItems_comm hparts
      | _ => rfl
    | set as =>
      cases b with
      | set bs =>
        rw [Bool.eq_iff_iff]
        exact ⟨looseEq_set_comm_imp hab hparts,
          looseEq_set_comm_imp hba fun y hy x hx => (hparts x hx y hy).symm⟩
      | _ => rfl
    | _ => exact looseEq_comm b rfl

section Coerced

variable {v : Value} (hv : v.IsCommensurable) (hzeros : ¬v.MixesZeros)

include hv hzeros

theorem distinguishes_of_within_coerce {a b : Value} (ha : a.Within v.coerce)
    (hb : b.Within v.coerce) : Distinguishes a b := by
  intro xs ys hxs hys y hy
  have hyv : y.Within v.coerce := (Within.of_part hy).trans (hys.trans hb)
  have hSx : ∀ x ∈ xs, x.Within v.coerce := fun x hx => (Within.of_part hx).trans (hxs.trans ha)
  have hnot := pairwise_not_both hv.composesOn
    (fun x hx => numbersIn_of_within_coerce (hSx x hx))
    (set_pairwise_of_within_coerce hv (hxs.trans ha)) (numbersIn_of_within_coerce hyv)
  refine hnot.imp_of_mem fun {x x'} hx hx' hboth hloose => hboth ⟨?_, ?_⟩
  · exact canonicalCompare_of_looseEq hv hzeros x y (hSx x hx) hyv hloose.1
  · exact canonicalCompare_of_looseEq hv hzeros x' y (hSx x' hx') hyv hloose.2

end Coerced

/-- Loose equality gives one answer from both sides, and of two equal sets each covers the other. -/
structure IsMutual (a b : Value) : Prop where
  comm : a.looseEq b = b.looseEq a
  covers : ∀ xs ys, a = set xs → b = set ys → a.looseEq b = true →
    (∀ x ∈ xs, ∃ y ∈ ys, x.looseEq y = true) ∧ ∀ y ∈ ys, ∃ x ∈ xs, y.looseEq x = true

theorem isMutual_of_comm {a b : Value} (h : a.looseEq b = b.looseEq a) : IsMutual a b where
  comm := h
  covers := by
    rintro xs ys rfl rfl hloose
    have hback := h ▸ hloose
    rw [looseEq, Bool.and_eq_true, looseCovered_iff] at hloose hback
    exact ⟨hloose.2, hback.2⟩

/-- Coerced values are compared alike from both sides if no element of a set is loosely equal to two
of another. So they are if doubles meet no integers beyond their limit and no zeros of both signs
occur. -/
theorem isMutual_coerce (a b : Value) :
    (Distinguishes a.coerce b.coerce → Distinguishes b.coerce a.coerce →
        IsMutual a.coerce b.coerce) ∧
      ((list [a, b]).IsCommensurable → ¬(list [a, b]).MixesZeros →
        IsMutual a.coerce b.coerce) := by
  have hmutual (hab : Distinguishes a.coerce b.coerce) (hba : Distinguishes b.coerce a.coerce) :
      IsMutual a.coerce b.coerce :=
    isMutual_of_comm (looseEq_comm_of_distinguishes a.coerce b.coerce hab hba)
  refine ⟨hmutual, fun hv hzeros => ?_⟩
  have ha : a.coerce.Within (list [a, b]).coerce := by
    rw [coerce_list]
    exact .of_part List.mem_cons_self
  have hb : b.coerce.Within (list [a, b]).coerce := by
    rw [coerce_list]
    exact .of_part (List.mem_cons_of_mem _ List.mem_cons_self)
  exact hmutual (distinguishes_of_within_coerce hv hzeros ha hb)
    (distinguishes_of_within_coerce hv hzeros hb ha)

def integerSet : Value :=
  set [int 1, set [int 2, text "b"]]

def doubleSet : Value :=
  set [set [text "b", double ⟨0x4000000000000000⟩], double ⟨0x3FF0000000000000⟩]

theorem isCommensurable_integerSet_doubleSet : (list [integerSet, doubleSet]).IsCommensurable := by
  intro i x hi _
  have : i = 1 ∨ i = 2 := by
    simpa [integerSet, doubleSet, within_list, within_set, within_scalar, isCollection] using hi
  rcases this with rfl | rfl <;> decide

theorem not_mixesZeros_integerSet_doubleSet : ¬(list [integerSet, doubleSet]).MixesZeros := by
  rintro ⟨h, -⟩
  simp [integerSet, doubleSet, within_list, within_set, within_scalar, isCollection,
    Double.negativeZero] at h

theorem isMutual_integerSet_doubleSet : (list [integerSet, doubleSet]).IsCommensurable ∧
    ¬(list [integerSet, doubleSet]).MixesZeros ∧ integerSet.coerce.looseEq doubleSet.coerce = true ∧
      doubleSet.coerce.looseEq integerSet.coerce = true := by
  have h := (isMutual_coerce integerSet doubleSet).2 isCommensurable_integerSet_doubleSet
    not_mixesZeros_integerSet_doubleSet
  have hloose : integerSet.coerce.looseEq doubleSet.coerce = true := rfl
  exact ⟨isCommensurable_integerSet_doubleSet, not_mixesZeros_integerSet_doubleSet, hloose,
    h.comm ▸ hloose⟩

/-- Both zeros are loosely equal to the one zero of the other set, which leaves its one without. -/
theorem not_looseEq_coerce_comm :
    ¬∀ a b : Value, a.coerce.looseEq b.coerce = b.coerce.looseEq a.coerce := by
  intro h
  have hzeros := h (set [double .negativeZero, double .zero])
    (set [double .zero, double ⟨0x3FF0000000000000⟩])
  exact absurd hzeros (by decide)

end WideColumn.Value

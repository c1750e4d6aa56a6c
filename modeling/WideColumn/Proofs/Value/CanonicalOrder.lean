import WideColumn.Proofs.Value.Within

/-!
Laws of the canonical order. It is antisymmetric, and beyond the numbers it is lexicographic all the
way down: on values whose numbers it orders totally it is total, and where it tells all numbers
apart it tells all values apart. Numbers are ordered totally as long as none of their doubles has
the place of two integers, so in any case if no integer beyond the limit of exact doubles meets a
double.
-/

namespace WideColumn.Value

theorem flattened_injective {es fs : List (Value × Value)}
    (h : (map es).parts = (map fs).parts) : es = fs := by
  induction es generalizing fs with
  | nil => cases fs <;> first | rfl | simp [parts] at h
  | cons e es ih =>
    cases fs with
    | nil => simp [parts] at h
    | cons f fs =>
      simp only [parts, List.flatMap_cons, List.cons_append, List.nil_append, List.cons.injEq] at h
      rw [Prod.ext h.1 h.2.1, ih h.2.2]

theorem canonicalCompareEntries_eq (es fs : List (Value × Value)) :
    canonicalCompareEntries es fs = canonicalCompareItems (map es).parts (map fs).parts := by
  induction es generalizing fs with
  | nil => cases fs <;> rfl
  | cons e es ih =>
    cases fs with
    | nil => rfl
    | cons f fs =>
      rw [canonicalCompareEntries, ih, Ordering.then_assoc]
      rfl

theorem eq_of_rank_collection {a b : Value} (hcollection : a.isCollection = true)
    (hrank : a.rank = b.rank) (hparts : a.parts = b.parts) : a = b := by
  cases a <;> cases b <;> simp [rank, isCollection] at hcollection hrank
  · exact congrArg list hparts
  · exact congrArg set hparts
  · exact congrArg map (flattened_injective hparts)

theorem isCollection_of_rank {a b : Value} (h : a.rank = b.rank) :
    a.isCollection = b.isCollection := by
  cases a <;> cases b <;> simp [rank] at h <;> rfl

theorem canonicalCompare_of_rank_ne {a b : Value} (h : a.rank ≠ b.rank) :
    canonicalCompare a b = compare a.rank b.rank := by
  cases a <;> cases b <;> first | rfl | exact absurd rfl h

theorem canonicalCompare_of_collection {a b : Value} (ha : a.isCollection = true)
    (h : a.rank = b.rank) : canonicalCompare a b = canonicalCompareItems a.parts b.parts := by
  cases a <;> cases b <;> simp [rank, isCollection] at ha h
  · rfl
  · rfl
  · exact canonicalCompareEntries_eq _ _

theorem canonicalCompare_eq_then (a b : Value) :
    canonicalCompare a b = (compare a.rank b.rank).then (canonicalCompare a b) := by
  by_cases h : a.rank = b.rank
  · rw [h, Std.ReflOrd.compare_self]
    rfl
  · rw [canonicalCompare_of_rank_ne h]
    cases compare a.rank b.rank <;> rfl

theorem rank_eq_of_canonicalCompare {a b : Value} (h : canonicalCompare a b = .eq) :
    a.rank = b.rank := by
  rw [canonicalCompare_eq_then, Ordering.then_eq_eq] at h
  exact Std.LawfulEqOrd.eq_of_compare h.1

section Swap

theorem canonicalCompareItems_swap {as : List Value}
    (h : ∀ a ∈ as, ∀ b, canonicalCompare a b = (canonicalCompare b a).swap) (bs : List Value) :
    canonicalCompareItems as bs = (canonicalCompareItems bs as).swap := by
  induction as generalizing bs with
  | nil => cases bs <;> rfl
  | cons a as ih =>
    cases bs with
    | nil => rfl
    | cons b bs =>
      obtain ⟨ha, has⟩ := List.forall_mem_cons.mp h
      rw [canonicalCompareItems, canonicalCompareItems, Ordering.swap_then, ha b, ih has bs]

theorem canonicalCompare_swap (a b : Value) :
    canonicalCompare a b = (canonicalCompare b a).swap := by
  induction a using induction_on_parts generalizing b with
  | step a ih =>
    by_cases hrank : a.rank = b.rank
    · cases ha : a.isCollection with
      | true =>
        rw [canonicalCompare_of_collection ha hrank, canonicalCompare_of_collection
          ((isCollection_of_rank hrank).symm.trans ha) hrank.symm]
        exact canonicalCompareItems_swap ih b.parts
      | false =>
        cases a <;> cases b <;> simp [rank, isCollection] at ha hrank
        case null.null => rfl
        case enum.enum d e =>
          simp only [canonicalCompare, EnumLabel.compare, Ordering.swap_then]
          rw [← Std.OrientedOrd.eq_swap, ← Std.OrientedOrd.eq_swap]
        case type.type => exact Std.OrientedOrd.eq_swap (α := String)
        case int.double => exact Std.OrientedOrd.eq_swap (α := Double)
        case double.int => exact Std.OrientedOrd.eq_swap (α := Double)
        case double.double => exact Std.OrientedOrd.eq_swap (α := Double)
        all_goals
          simp only [canonicalCompare]
          exact Std.OrientedOrd.eq_swap
    · rw [canonicalCompare_of_rank_ne hrank, canonicalCompare_of_rank_ne (Ne.symm hrank)]
      exact Std.OrientedOrd.eq_swap

instance : Std.OrientedCmp canonicalCompare where
  eq_swap := canonicalCompare_swap _ _

def compareKeys (d e : Value × Value) : Ordering :=
  canonicalCompare d.1 e.1

instance : Std.OrientedCmp compareKeys where
  eq_swap := canonicalCompare_swap _ _

end Swap

def isNumber : Value → Bool
  | int _ | double _ => true
  | _ => false

def NumbersIn (N : Value → Prop) (v : Value) : Prop :=
  ∀ n : Value, n.Within v → n.isNumber = true → N n

theorem isNumber_of_rank {a b : Value} (h : a.rank = b.rank) : a.isNumber = b.isNumber := by
  cases a <;> cases b <;> simp [rank] at h <;> rfl

section Scalars

variable {a b c : Value} (hcollection : a.isCollection = false) (hnumber : a.isNumber = false)

include hcollection hnumber

theorem composes_scalar (hab : a.rank = b.rank) (hbc : b.rank = c.rank) :
    Composes (canonicalCompare a b) (canonicalCompare b c) (canonicalCompare a c) := by
  cases a <;> cases b <;> simp [rank, isCollection, isNumber] at hcollection hnumber hab <;>
    cases c <;> simp [rank] at hbc
  case null.null.null => exact fun _ _ => rfl
  case enum.enum.enum d e f =>
    simp only [canonicalCompare, EnumLabel.compare]
    exact (Composes.compare d.label e.label f.label).lex fun _ _ =>
      Composes.compare d.path e.path f.path
  all_goals
    simp only [canonicalCompare]
    exact Composes.compare _ _ _

theorem eq_of_scalar (h : canonicalCompare a b = .eq) : a = b := by
  have hrank := rank_eq_of_canonicalCompare h
  cases a <;> cases b <;> simp [rank, isCollection, isNumber] at hcollection hnumber hrank <;>
    simp only [canonicalCompare] at h
  case enum.enum d e =>
    rw [EnumLabel.compare, Ordering.then_eq_eq] at h
    cases d
    cases e
    cases Std.LawfulEqOrd.eq_of_compare h.1
    cases Std.LawfulEqOrd.eq_of_compare h.2
    rfl
  case type.type s t =>
    cases s
    cases t
    cases Std.LawfulEqOrd.eq_of_compare h
    rfl
  all_goals first | rfl | cases Std.LawfulEqOrd.eq_of_compare h; rfl

end Scalars

section Numbers

variable {N : Value → Prop} {u v : Value}

theorem NumbersIn.of_within (h : NumbersIn N v) (hu : u.Within v) : NumbersIn N u :=
  fun n hn => h n (hn.trans hu)

theorem composes_items (as : List Value)
    (h : ∀ a ∈ as, ∀ b c, NumbersIn N a → NumbersIn N b → NumbersIn N c →
      Composes (canonicalCompare a b) (canonicalCompare b c) (canonicalCompare a c))
    (bs cs : List Value) (has : ∀ a ∈ as, NumbersIn N a) (hbs : ∀ b ∈ bs, NumbersIn N b)
    (hcs : ∀ c ∈ cs, NumbersIn N c) :
    Composes (canonicalCompareItems as bs) (canonicalCompareItems bs cs)
      (canonicalCompareItems as cs) := by
  induction as generalizing bs cs with
  | nil =>
    cases bs with
    | nil => exact fun _ _ => rfl
    | cons b bs =>
      cases cs with
      | nil => exact fun _ h => absurd h Bool.false_ne_true
      | cons c cs => exact fun _ _ => rfl
  | cons a as ih =>
    cases bs with
    | nil => exact fun h => absurd h Bool.false_ne_true
    | cons b bs =>
      cases cs with
      | nil => exact fun _ h => absurd h Bool.false_ne_true
      | cons c cs =>
        rw [List.forall_mem_cons] at h has hbs hcs
        simp only [canonicalCompareItems]
        exact (h.1 b c has.1 hbs.1 hcs.1).lex fun _ _ => ih h.2 bs cs has.2 hbs.2 hcs.2

theorem composesOn_numbersIn (hN : ComposesOn canonicalCompare N) :
    ComposesOn canonicalCompare (NumbersIn N) := by
  intro a
  induction a using induction_on_parts with
  | step a ih =>
    intro b c ha hb hc
    rw [canonicalCompare_eq_then a b, canonicalCompare_eq_then b c, canonicalCompare_eq_then a c]
    -- only values of one rank are compared any further
    refine (Composes.compare a.rank b.rank c.rank).lex fun hab hbc => ?_
    replace hab : a.rank = b.rank := Std.LawfulEqOrd.eq_of_compare hab
    replace hbc : b.rank = c.rank := Std.LawfulEqOrd.eq_of_compare hbc
    cases hcollection : a.isCollection with
    | true =>
      have hcollection' := (isCollection_of_rank hab).symm.trans hcollection
      rw [canonicalCompare_of_collection hcollection hab,
        canonicalCompare_of_collection hcollection' hbc,
        canonicalCompare_of_collection hcollection (hab.trans hbc)]
      exact composes_items a.parts ih b.parts c.parts
        (fun u hu => ha.of_within (.of_part hu)) (fun u hu => hb.of_within (.of_part hu))
        fun u hu => hc.of_within (.of_part hu)
    | false =>
      cases hnumber : a.isNumber with
      | true =>
        have hnumber' := (isNumber_of_rank hab).symm.trans hnumber
        exact hN a b c (ha a .self hnumber) (hb b .self hnumber')
          (hc c .self ((isNumber_of_rank hbc).symm.trans hnumber'))
      | false => exact composes_scalar hcollection hnumber hab hbc

theorem forall₂_of_canonicalCompareItems {R : Value → Value → Prop} {as bs : List Value}
    (h : ∀ a ∈ as, ∀ b ∈ bs, canonicalCompare a b = .eq → R a b)
    (heq : canonicalCompareItems as bs = .eq) : List.Forall₂ R as bs := by
  induction as generalizing bs with
  | nil => cases bs <;> first | exact .nil | contradiction
  | cons a as ih =>
    cases bs with
    | nil => contradiction
    | cons b bs =>
      rw [canonicalCompareItems, Ordering.then_eq_eq] at heq
      have hrest := ih (fun x hx y hy => h x (.tail a hx) y (.tail b hy)) heq.2
      exact .cons (h a (.head as) b (.head bs) heq.1) hrest

theorem eq_of_items {as : List Value}
    (h : ∀ a ∈ as, ∀ b, NumbersIn N a → NumbersIn N b → canonicalCompare a b = .eq → a = b)
    {bs : List Value} (has : ∀ a ∈ as, NumbersIn N a) (hbs : ∀ b ∈ bs, NumbersIn N b)
    (heq : canonicalCompareItems as bs = .eq) : as = bs := by
  have hpointwise := forall₂_of_canonicalCompareItems
    (fun a ha b hb => h a ha b (has a ha) (hbs b hb)) heq
  rwa [List.forall₂_eq_eq_eq] at hpointwise

theorem separatesOn_numbersIn (hN : SeparatesOn canonicalCompare N) :
    SeparatesOn canonicalCompare (NumbersIn N) := by
  intro a
  induction a using induction_on_parts with
  | step a ih =>
    intro b ha hb h
    have hrank := rank_eq_of_canonicalCompare h
    cases hcollection : a.isCollection with
    | true =>
      rw [canonicalCompare_of_collection hcollection hrank] at h
      exact eq_of_rank_collection hcollection hrank (eq_of_items ih
        (fun u hu => ha.of_within (.of_part hu)) (fun u hu => hb.of_within (.of_part hu)) h)
    | false =>
      cases hnumber : a.isNumber with
      | true =>
        exact hN a b (ha a .self hnumber)
          (hb b .self ((isNumber_of_rank hrank).symm.trans hnumber)) h
      | false => exact eq_of_scalar hcollection hnumber h

end Numbers

section Ties

/-- No double is the nearest one of two integers. -/
def KeepsIntegersApart (N : Value → Prop) : Prop :=
  ∀ (i j : Int64) (x : Double), N (int i) → N (int j) → N (double x) →
    .ofInt64 i = x → .ofInt64 j = x → i = j

def asDouble : Value → Double
  | int i => .ofInt64 i
  | double x => x
  | _ => default

def breakTie : Value → Value → Ordering
  | int i, int j => compare i j
  | _, _ => .eq

theorem eq_int_or_double {n : Value} (h : n.isNumber = true) :
    (∃ i, n = int i) ∨ ∃ x, n = double x := by
  cases n with
  | int i => exact .inl ⟨i, rfl⟩
  | double x => exact .inr ⟨x, rfl⟩
  | _ => contradiction

theorem canonicalCompare_numbers {m n : Value} (hm : m.isNumber = true) (hn : n.isNumber = true) :
    canonicalCompare m n = (compare m.asDouble n.asDouble).then (breakTie m n) := by
  obtain ⟨i, rfl⟩ | ⟨x, rfl⟩ := eq_int_or_double hm <;>
    obtain ⟨j, rfl⟩ | ⟨y, rfl⟩ := eq_int_or_double hn
  · exact (Double.compare_ofInt64_then i j).symm
  all_goals exact Ordering.then_eq.symm

variable {N : Value → Prop} (hN : KeepsIntegersApart N)

include hN

theorem composes_breakTie {a b c : Value} (ha : a.isNumber = true ∧ N a)
    (hb : b.isNumber = true ∧ N b) (hc : c.isNumber = true ∧ N c) (hab : a.asDouble = b.asDouble)
    (hbc : b.asDouble = c.asDouble) : Composes (breakTie a b) (breakTie b c) (breakTie a c) := by
  obtain ⟨hnumber, ha⟩ := ha
  obtain ⟨hnumber', hb⟩ := hb
  obtain ⟨hnumber'', hc⟩ := hc
  have hlevel (i : Int64) : compare i i = .eq := Std.ReflOrd.compare_self
  obtain ⟨i, rfl⟩ | ⟨x, rfl⟩ := eq_int_or_double hnumber <;>
    obtain ⟨j, rfl⟩ | ⟨y, rfl⟩ := eq_int_or_double hnumber' <;>
      obtain ⟨k, rfl⟩ | ⟨z, rfl⟩ := eq_int_or_double hnumber''
  · exact Composes.compare i j k
  -- where two integers have the place of one double, they are one
  · cases hN i j z ha hb hc (hab.trans hbc) hbc
    exact fun _ _ => by simp only [breakTie, hlevel, Ordering.then_eq]
  · cases hN i k y ha hc hb hab hbc.symm
    exact fun _ _ => hlevel i
  · exact fun _ _ => rfl
  · cases hN j k x hb hc ha hab.symm (hab.trans hbc).symm
    exact fun _ _ => by simp only [breakTie, hlevel, Ordering.then_eq]
  all_goals exact fun _ _ => rfl

theorem composesOn_numbers :
    ComposesOn canonicalCompare fun n => n.isNumber = true ∧ N n := by
  intro a b c ha hb hc
  rw [canonicalCompare_numbers ha.1 hb.1, canonicalCompare_numbers hb.1 hc.1,
    canonicalCompare_numbers ha.1 hc.1]
  refine (Composes.compare a.asDouble b.asDouble c.asDouble).lex fun hab hbc => ?_
  exact composes_breakTie hN ha hb hc (Std.LawfulEqOrd.eq_of_compare hab)
    (Std.LawfulEqOrd.eq_of_compare hbc)

theorem KeepsIntegersApart.composesOn : ComposesOn canonicalCompare (NumbersIn N) := by
  intro a b c ha hb hc
  have hnumbers {v : Value} (hv : NumbersIn N v) :
      NumbersIn (fun n => n.isNumber = true ∧ N n) v := fun n hn hnumber =>
    ⟨hnumber, hv n hn hnumber⟩
  exact composesOn_numbersIn (composesOn_numbers hN) a b c (hnumbers ha) (hnumbers hb)
    (hnumbers hc)

end Ties

def IsNumberOf (v n : Value) : Prop :=
  n.isNumber = true ∧ n.Within v

def IsCommensurable (v : Value) : Prop :=
  ∀ (i : Int64) (x : Double), (int i).Within v → (double x).Within v →
    i.toInt.natAbs ≤ Double.exactLimit

def IsTyped (v : Value) : Prop :=
  ∀ (i : Int64) (x : Double), (int i).Within v → ¬(double x).Within v

section NumbersOf

variable {u v : Value}

theorem isNumber_coerce (v : Value) : v.coerce.isNumber = v.isNumber := by
  cases v <;> rfl

theorem coerce_of_isNumber (h : v.isNumber = true) : v.coerce = v := by
  cases v <;> first | rfl | contradiction

theorem numbersIn_coerce (h : u.Within v) : NumbersIn v.IsNumberOf u.coerce := by
  intro n hn hnumber
  obtain ⟨w, hw, rfl⟩ := exists_of_within_coerce hn
  rw [isNumber_coerce] at hnumber
  rw [coerce_of_isNumber hnumber]
  exact ⟨hnumber, hw.trans h⟩

theorem IsCommensurable.keepsIntegersApart (h : v.IsCommensurable) :
    KeepsIntegersApart v.IsNumberOf := by
  rintro i j x ⟨-, hi⟩ ⟨-, hj⟩ ⟨-, hx⟩ hix hjx
  have hsame : compare (Double.ofInt64 i) (Double.ofInt64 j) = .eq := by
    rw [hix, hjx]
    exact Std.ReflOrd.compare_self
  rw [Double.compare_ofInt64 (h i x hi hx) (h j x hj hx)] at hsame
  exact Std.LawfulEqOrd.eq_of_compare hsame

theorem IsCommensurable.composesOn (h : v.IsCommensurable) :
    ComposesOn canonicalCompare (NumbersIn v.IsNumberOf) :=
  h.keepsIntegersApart.composesOn

namespace IsTyped

variable (h : v.IsTyped)

include h

theorem isCommensurable : v.IsCommensurable :=
  fun i x hi hx => absurd hx (h i x hi)

theorem separatesOn : SeparatesOn canonicalCompare (NumbersIn v.IsNumberOf) := by
  refine separatesOn_numbersIn ?_
  rintro a b ⟨ha, hav⟩ ⟨hb, hbv⟩ heq
  cases a <;> try contradiction
  all_goals cases b <;> try contradiction
  case int.double i x => exact absurd hbv (h i x hav)
  case double.int x i => exact absurd hav (h i x hbv)
  case int.int i j => exact congrArg int (Std.LawfulEqOrd.eq_of_compare heq)
  case double.double x y =>
    exact congrArg double (Std.LawfulEqOrd.eq_of_compare (α := Double) heq)

end IsTyped

end NumbersOf

end WideColumn.Value

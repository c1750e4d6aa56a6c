import WideColumn.Proofs.Value.CanonicalOrder

/-!
How the three comparisons of values go together. Where the strict order is defined it calls equal
what is loosely equal and nothing else, and the canonical order refines it. In the other direction,
values of one place in the canonical order are loosely equal as long as they hold no NaN, which has
a place but equals nothing, and no map, which is compared structurally.
-/

namespace WideColumn

namespace Double

variable {x y : Double} {o : Ordering}

theorem numericCompare_swap (x y : Double) :
    y.numericCompare x = (x.numericCompare y).map Ordering.swap := by
  rw [numericCompare, numericCompare, Bool.or_comm]
  split
  · rfl
  · exact congrArg some Std.OrientedOrd.eq_swap

theorem sameNumber_iff_of_numericCompare (h : x.numericCompare y = some o) :
    x.sameNumber y = true ↔ o = .eq := by
  rw [sameNumber, h, beq_iff_eq, Option.some.injEq]

theorem totalKey_lt_of_numericKey_lt (h : x.numericKey < y.numericKey) :
    x.totalKey < y.totalKey := by
  cases hx : x.isNegative <;> cases hy : y.isNegative <;>
    simp only [numericKey, totalKey, hx, hy, Bool.false_eq_true, if_true, if_false] at h ⊢ <;>
      omega

theorem totalCompare_of_numericCompare (h : x.numericCompare y = some o) (hne : o ≠ .eq) :
    x.totalCompare y = o := by
  rw [numericCompare] at h
  split at h
  · contradiction
  obtain rfl := Option.some.inj h
  rw [totalCompare]
  cases hkeys : compare x.numericKey y.numericKey with
  | lt =>
    rw [Std.compare_eq_lt] at hkeys ⊢
    exact totalKey_lt_of_numericKey_lt hkeys
  | eq => exact absurd hkeys hne
  | gt =>
    rw [Std.compare_eq_gt] at hkeys ⊢
    exact totalKey_lt_of_numericKey_lt hkeys

end Double

namespace Value

section Strict

variable {a b : Value} {o : Ordering}

theorem strictCompare_swap (a b : Value) :
    strictCompare b a = (strictCompare a b).map Ordering.swap := by
  cases a <;> cases b <;> try rfl
  case int.double | double.int | double.double => exact Double.numericCompare_swap _ _
  all_goals exact congrArg some Std.OrientedOrd.eq_swap

structure IsBorneOut (a b : Value) (o : Ordering) : Prop where
  looseEq_iff : a.looseEq b = true ↔ o = .eq
  canonicalCompare_eq : o ≠ .eq → canonicalCompare a b = o

theorem isBorneOut_contents {α : Type} [Ord α] [Std.LawfulEqOrd α] {s t : α}
    (hloose : a.looseEq b = true ↔ s = t) (hcanonical : canonicalCompare a b = compare s t) :
    IsBorneOut a b (compare s t) where
  looseEq_iff := hloose.trans Std.LawfulEqOrd.compare_eq_iff_eq.symm
  canonicalCompare_eq _ := hcanonical

theorem isBorneOut_numbers {x y : Double} (hloose : a.looseEq b = x.sameNumber y)
    (hcanonical : canonicalCompare a b = x.totalCompare y) (h : x.numericCompare y = some o) :
    IsBorneOut a b o where
  looseEq_iff := hloose ▸ Double.sameNumber_iff_of_numericCompare h
  canonicalCompare_eq hne := hcanonical.trans (Double.totalCompare_of_numericCompare h hne)

theorem isBorneOut_labels (d e : EnumLabel) :
    IsBorneOut (enum d) (enum e) (compare d.label e.label) where
  looseEq_iff := beq_iff_eq.trans Std.LawfulEqOrd.compare_eq_iff_eq.symm
  canonicalCompare_eq hne := by
    rw [canonicalCompare, EnumLabel.compare]
    cases hlabels : compare d.label e.label with
    | eq => exact absurd hlabels hne
    | _ => rfl

theorem isBorneOut_of_strictCompare (h : strictCompare a b = some o) : IsBorneOut a b o := by
  cases a <;> cases b <;> simp only [strictCompare, reduceCtorEq, Option.some.injEq] at h
  case int.double | double.int | double.double => exact isBorneOut_numbers rfl rfl h
  case enum.enum d e => exact h ▸ isBorneOut_labels d e
  all_goals exact h ▸ isBorneOut_contents beq_iff_eq rfl

end Strict

def IsNaNFree (v : Value) : Prop :=
  ∀ x : Double, (double x).Within v → x.isNaN = false

def IsMapFree (v : Value) : Prop :=
  ∀ entries, ¬(map entries).Within v

section Places

variable {a b u v : Value}

theorem IsNaNFree.of_within (h : v.IsNaNFree) (hu : u.Within v) : u.IsNaNFree :=
  fun x hx => h x (hx.trans hu)

theorem IsMapFree.of_within (h : v.IsMapFree) (hu : u.Within v) : u.IsMapFree :=
  fun entries hentries => h entries (hentries.trans hu)

theorem looseEq_self_of_scalar (hcollection : v.isCollection = false) (hnan : v.IsNaNFree) :
    v.looseEq v = true := by
  cases v with
  | list _ | set _ | map _ => contradiction
  | double x => exact Double.sameNumber_self (hnan x .self)
  | _ => simp [looseEq, same]

theorem looseEq_of_place_scalar (hcollection : a.isCollection = false) (hnan : a.IsNaNFree)
    (h : canonicalCompare a b = .eq) : a.looseEq b = true := by
  have hcollection' : b.isCollection = false :=
    (isCollection_of_rank (rank_eq_of_canonicalCompare h)).symm.trans hcollection
  rcases looseEq_of_canonicalCompare hcollection' (Std.OrientedCmp.eq_symm h) with rfl | hloose
  · exact looseEq_self_of_scalar hcollection hnan
  · exact hloose

theorem looseCovered_of_looseEqItems {as bs : List Value} (h : looseEqItems as bs = true) :
    looseCovered as bs = true := by
  rw [looseEqItems_iff] at h
  rw [looseCovered_iff]
  induction h with
  | nil => exact List.forall_mem_nil _
  | cons hab _ ih =>
    refine List.forall_mem_cons.mpr ⟨⟨_, List.mem_cons_self, hab⟩, fun x hx => ?_⟩
    obtain ⟨y, hy, hxy⟩ := ih x hx
    exact ⟨y, List.mem_cons_of_mem _ hy, hxy⟩

theorem looseEq_of_parts (hcollection : a.isCollection = true) (hrank : a.rank = b.rank)
    (hmap : a.IsMapFree) (h : looseEqItems a.parts b.parts = true) : a.looseEq b = true := by
  cases a <;> cases b <;> simp [rank, isCollection] at hcollection hrank
  case list.list => exact h
  case set.set as bs =>
    have hlength : as.length = bs.length := (looseEqItems_iff.mp h).length_eq
    rw [looseEq, Bool.and_eq_true, beq_iff_eq]
    exact ⟨hlength, looseCovered_of_looseEqItems h⟩
  case map.map es fs => exact absurd .self (hmap es)

theorem looseEq_of_place (a b : Value) (hnan : a.IsNaNFree) (hmap : a.IsMapFree)
    (h : canonicalCompare a b = .eq) : a.looseEq b = true := by
  induction a using induction_on_parts generalizing b with
  | step a ih =>
    cases hcollection : a.isCollection with
    | false => exact looseEq_of_place_scalar hcollection hnan h
    | true =>
      have hrank := rank_eq_of_canonicalCompare h
      rw [canonicalCompare_of_collection hcollection hrank] at h
      have hparts : List.Forall₂ (fun x y => x.looseEq y = true) a.parts b.parts :=
        forall₂_of_canonicalCompareItems (fun x hx y _ hxy => ih x hx y
          (hnan.of_within (.of_part hx)) (hmap.of_within (.of_part hx)) hxy) h
      exact looseEq_of_parts hcollection hrank hmap (looseEqItems_iff.mpr hparts)

theorem isNaN_of_looseEq {x : Double} (h : (double x).looseEq b = true) : x.isNaN = false := by
  cases b <;> first | contradiction | exact (Double.sameNumber_iff.mp h).1

theorem exists_looseEq_of_mem_parts (hmap : a.IsMapFree) (h : a.looseEq b = true)
    (hu : u ∈ a.parts) : ∃ w : Value, u.looseEq w = true := by
  cases a with
  | list as =>
    cases b <;> try contradiction
    obtain ⟨w, -, hw⟩ := looseCovered_iff.mp (looseCovered_of_looseEqItems h) u hu
    exact ⟨w, hw⟩
  | set as =>
    cases b <;> try contradiction
    rw [looseEq, Bool.and_eq_true, looseCovered_iff] at h
    obtain ⟨w, -, hw⟩ := h.2 u hu
    exact ⟨w, hw⟩
  | map es => exact absurd .self (hmap es)
  | _ => exact absurd hu List.not_mem_nil

theorem isNaNFree_of_looseEq (a b : Value) (hmap : a.IsMapFree) (h : a.looseEq b = true) :
    a.IsNaNFree := by
  induction a using induction_on_parts generalizing b with
  | step a ih =>
    intro x hx
    cases hx with
    | self => exact isNaN_of_looseEq h
    | part hpart hx =>
      obtain ⟨w, hw⟩ := exists_looseEq_of_mem_parts hmap h hpart
      exact ih _ hpart w (hmap.of_within (.of_part hpart)) hw x hx

end Places

/-- The strict order reverses with its sides. Where it is defined, its verdict of equality is loose
equality, and any other verdict is that of the canonical order. Coerced values of one place in the
canonical order, with no map within, are loosely equal if and only if no NaN is within. -/
theorem comparisons_consistent (a b : Value) :
    strictCompare b a = (strictCompare a b).map Ordering.swap ∧
      (∀ o, strictCompare a b = some o → (o = .eq ↔ a.looseEq b = true)) ∧
      (∀ o, strictCompare a b = some o → o ≠ .eq → canonicalCompare a b = o) ∧
      (a.coerce.IsMapFree → canonicalCompare a.coerce b.coerce = .eq →
        (a.coerce.looseEq b.coerce = true ↔ a.coerce.IsNaNFree)) := by
  refine ⟨strictCompare_swap a b, fun o h => ?_, fun o h => ?_, fun hmap h => ?_⟩
  · exact (isBorneOut_of_strictCompare h).looseEq_iff.symm
  · exact (isBorneOut_of_strictCompare h).canonicalCompare_eq
  · exact ⟨isNaNFree_of_looseEq _ _ hmap, fun hnan => looseEq_of_place _ _ hnan hmap h⟩

def exactReadings : Value :=
  set [list [double ⟨0x4008000000000000⟩, enum ⟨"b", some "Grade"⟩], int 9007199254740993]

def roundedReadings : Value :=
  set [double ⟨0x4340000000000000⟩, list [int 3, text "b"]]

theorem coerce_exactReadings : exactReadings.coerce =
    set [int 9007199254740993, list [double ⟨0x4008000000000000⟩, text "b"]] :=
  rfl

theorem isMapFree_exactReadings : exactReadings.coerce.IsMapFree := by
  intro entries h
  rw [coerce_exactReadings] at h
  simp [within_set, within_list, within_scalar, isCollection] at h

theorem isNaNFree_exactReadings : exactReadings.coerce.IsNaNFree := by
  intro x h
  rw [coerce_exactReadings] at h
  obtain rfl : x = ⟨0x4008000000000000⟩ := by
    simpa [within_set, within_list, within_scalar, isCollection] using h
  decide

theorem comparisons_consistent_readings :
    strictCompare (enum ⟨"a", some "Grade"⟩) (enum ⟨"b", none⟩) = some .lt ∧
      ¬(enum ⟨"a", some "Grade"⟩).looseEq (enum ⟨"b", none⟩) = true ∧
      canonicalCompare (enum ⟨"a", some "Grade"⟩) (enum ⟨"b", none⟩) = .lt ∧
      exactReadings.coerce.IsMapFree ∧ exactReadings.coerce.IsNaNFree ∧
      canonicalCompare exactReadings.coerce roundedReadings.coerce = .eq ∧
      exactReadings.coerce.looseEq roundedReadings.coerce = true := by
  have hstrict : strictCompare (enum ⟨"a", some "Grade"⟩) (enum ⟨"b", none⟩) = some .lt := rfl
  have hplace : canonicalCompare exactReadings.coerce roundedReadings.coerce = .eq := rfl
  obtain ⟨-, hequal, hcanonical, -⟩ :=
    comparisons_consistent (enum ⟨"a", some "Grade"⟩) (enum ⟨"b", none⟩)
  obtain ⟨-, -, -, hloose⟩ := comparisons_consistent exactReadings roundedReadings
  have hdiffer : ¬Ordering.lt = .eq := by decide
  exact ⟨hstrict, mt (hequal .lt hstrict).mpr hdiffer, hcanonical .lt hstrict hdiffer,
    isMapFree_exactReadings, isNaNFree_exactReadings, hplace,
    (hloose isMapFree_exactReadings hplace).mpr isNaNFree_exactReadings⟩

end Value

end WideColumn

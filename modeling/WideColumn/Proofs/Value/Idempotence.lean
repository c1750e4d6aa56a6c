import WideColumn.Proofs.Value.CanonicalOrder
import WideColumn.Proofs.Value.Rearrangement

/-!
Coercing twice. Coercion has no cycles: a value that comes back never changed, and it is one that is
in order at every depth. A coerced value is such a value if and only if each of its sets ascends.
Where no integer beyond the limit of exact doubles meets a double they all do. Otherwise a double
can stand between two integers that are in the wrong order, and then be dropped as a repetition.
-/

open Function (periodicPts IsPeriodicPt)

namespace WideColumn.Value

def isNative : Value → Bool
  | enum _ | type _ => false
  | _ => true

theorem isNative_coerce (v : Value) : v.coerce.isNative = true := by
  cases v <;> rfl

/-- Coercion leaves the value itself in place, whatever it does to its parts. -/
def IsSettled : Value → Prop
  | set items => items.IsChain fun a b => canonicalCompare a b = .lt
  | map entries => entries.IsChain fun d e => (compareKeys e d == .lt) = false
  | v => v.isNative = true

theorem map_eq_self_iff {α : Type} {f : α → α} {xs : List α} :
    xs.map f = xs ↔ ∀ x ∈ xs, f x = x := by
  simpa using List.map_inj_left (f := f) (g := id) (l := xs)

theorem coerce_eq_self {v : Value} (h : v.IsSettled) (hparts : ∀ u ∈ v.parts, u.coerce = u) :
    v.coerce = v := by
  cases v with
  | enum e | type t => contradiction
  | list items =>
    have hitems : items.map coerce = items := map_eq_self_iff.mpr hparts
    rw [coerce_list, hitems]
  | set items =>
    have hitems : items.map coerce = items := map_eq_self_iff.mpr hparts
    rw [coerce_set, hitems, canonicalItems, Insertion.distinctSort_eq_self_of_lt h]
  | map entries =>
    have hentries : entries.map coerceEntry = entries :=
      map_eq_self_iff.mpr fun e he => Prod.ext
        (hparts e.1 (mem_parts_map.mpr ⟨e, he, .inl rfl⟩))
        (hparts e.2 (mem_parts_map.mpr ⟨e, he, .inr rfl⟩))
    have hsorted : canonicalEntries entries = entries := Insertion.sort_eq_self h
    rw [coerce_map, hentries, hsorted]
  | _ => rfl

section Sorted

theorem settling_canonicalItems : Settling canonicalItems :=
  settling_distinctSort canonicalCompare

theorem settling_canonicalEntries : Settling canonicalEntries :=
  settling_sort compareKeys

theorem isSettled_map_canonicalEntries (entries : List (Value × Value)) :
    (map (canonicalEntries entries)).IsSettled :=
  Insertion.sort_isChain Insertion.below_asymm entries

end Sorted

section Periodic

theorem isNative_of_mem_periodicPts {v : Value} (h : v ∈ periodicPts coerce) :
    v.isNative = true := by
  obtain ⟨n, hn, hperiod⟩ := h
  obtain ⟨m, rfl⟩ := Nat.exists_eq_add_of_lt hn
  rw [IsPeriodicPt, Function.IsFixedPt, Nat.zero_add, Function.iterate_succ_apply'] at hperiod
  rw [← hperiod]
  exact isNative_coerce _

theorem mem_periodicPts_of_semiconj {α : Type} {c : α → Value} (hinj : Function.Injective c)
    {f : α → α} (hcoerce : Function.Semiconj c f coerce) {x : α}
    (h : c x ∈ periodicPts coerce) : x ∈ periodicPts f := by
  obtain ⟨n, hn, hperiod⟩ := h
  refine Function.mk_mem_periodicPts hn (hinj ?_)
  rw [hcoerce.iterate_right n x]
  exact hperiod

theorem parts_mem_periodicPts {e : Value × Value} (h : e ∈ periodicPts coerceEntry) :
    e.1 ∈ periodicPts coerce ∧ e.2 ∈ periodicPts coerce :=
  ⟨Function.Semiconj.mapsTo_periodicPts (g := Prod.fst) (fun _ => rfl) h,
    Function.Semiconj.mapsTo_periodicPts (g := Prod.snd) (fun _ => rfl) h⟩

theorem isSettled_of_mem_periodicPts (v : Value) (h : v ∈ periodicPts coerce) :
    v.IsSettled ∧ ∀ u ∈ v.parts, u.coerce = u := by
  -- the parts first: each round coerces them, and what comes back of them is fixed already
  induction v using induction_on_parts with
  | step v ih =>
    have hfixed : ∀ u ∈ v.parts, u ∈ periodicPts coerce → u.coerce = u := fun u hu hperiodic =>
      coerce_eq_self (ih u hu hperiodic).1 (ih u hu hperiodic).2
    cases v with
    | enum e | type t => exact absurd (isNative_of_mem_periodicPts h) Bool.false_ne_true
    | list items =>
      have hitems := mem_periodicPts_of_semiconj (c := list) (fun _ _ => list.inj)
        (fun xs => (coerce_list xs).symm) h
      have hmap := (eq_self_of_mem_periodicPts settling_id hitems hfixed).1
      exact ⟨rfl, map_eq_self_iff.mp hmap⟩
    | set items =>
      have hitems := mem_periodicPts_of_semiconj (c := set) (fun _ _ => set.inj)
        (fun xs => (coerce_set xs).symm) h
      obtain ⟨hmap, hsorted⟩ := eq_self_of_mem_periodicPts settling_canonicalItems hitems hfixed
      have hchain : (canonicalItems items).IsChain fun a b => canonicalCompare a b = .lt :=
        Insertion.distinctSort_isChain (congrArg List.length hsorted)
      rw [hsorted] at hchain
      exact ⟨hchain, map_eq_self_iff.mp hmap⟩
    | map entries =>
      have hentries := mem_periodicPts_of_semiconj (c := map) (fun _ _ => map.inj)
        (fun es => (coerce_map es).symm) h
      obtain ⟨hmap, hsorted⟩ := eq_self_of_mem_periodicPts settling_canonicalEntries hentries
        fun e he hperiodic => Prod.ext
          (hfixed e.1 (mem_parts_map.mpr ⟨e, he, .inl rfl⟩) (parts_mem_periodicPts hperiodic).1)
          (hfixed e.2 (mem_parts_map.mpr ⟨e, he, .inr rfl⟩) (parts_mem_periodicPts hperiodic).2)
      refine ⟨hsorted ▸ isSettled_map_canonicalEntries entries, fun u hu => ?_⟩
      obtain ⟨e, he, rfl | rfl⟩ := mem_parts_map.mp hu
      · exact congrArg Prod.fst (map_eq_self_iff.mp hmap e he)
      · exact congrArg Prod.snd (map_eq_self_iff.mp hmap e he)
    | _ => exact ⟨rfl, fun _ hu => absurd hu List.not_mem_nil⟩

theorem coerce_eq_self_iff {v : Value} :
    v.coerce = v ↔ ∀ u : Value, u.Within v → u.IsSettled := by
  constructor
  · intro h u hu
    have hsettled {v : Value} (h : v.coerce = v) :=
      isSettled_of_mem_periodicPts v (Function.mk_mem_periodicPts Nat.one_pos h)
    induction hu with
    | self => exact (hsettled h).1
    | part hpart _ ih => exact ih ((hsettled h).2 _ hpart)
  · intro h
    induction v using induction_on_parts with
    | step v ih =>
      exact coerce_eq_self (h v .self) fun u hu => ih u hu fun w hw => h w (.part hu hw)

end Periodic

section Coerced

variable {u v : Value}

theorem isSettled_of_within_coerce (h : u.Within v.coerce)
    (hset : ∀ items, (set items).Within v.coerce →
      items.IsChain fun a b => canonicalCompare a b = .lt) : u.IsSettled := by
  obtain ⟨w, -, rfl⟩ := exists_of_within_coerce h
  cases w with
  | set items =>
    rw [coerce_set] at h ⊢
    exact hset _ h
  | map entries =>
    rw [coerce_map]
    exact isSettled_map_canonicalEntries _
  | _ => rfl

theorem set_pairwise_of_within_coerce (hv : v.IsCommensurable) {items : List Value}
    (h : (set items).Within v.coerce) :
    items.Pairwise fun a b => canonicalCompare a b = .lt := by
  obtain ⟨w, hw, hcoerce⟩ := exists_of_within_coerce h
  cases w <;> try contradiction
  rename_i xs
  rw [coerce_set] at hcoerce
  cases hcoerce
  refine Insertion.distinctSort_pairwise hv.composesOn fun x hx => ?_
  obtain ⟨y, hy, rfl⟩ := List.mem_map.mp hx
  exact numbersIn_coerce ((Within.of_part hy).trans hw)

end Coerced

/-- Coercing twice is coercing once if and only if every set, at any depth, is left ascending. That
is so unless a double meets an integer beyond those that doubles keep apart. The order is not total
then, so of a set with more than 20 elements the equivalence says only what insertion makes of it:
the order of its elements is unspecified. -/
theorem coerce_coerce_eq_iff (v : Value) :
    (v.coerce.coerce = v.coerce ↔
        ∀ items, (set items).Within v.coerce →
          items.IsChain fun a b => canonicalCompare a b = .lt) ∧
      (v.IsCommensurable → v.coerce.coerce = v.coerce) := by
  have hiff : v.coerce.coerce = v.coerce ↔ ∀ items, (set items).Within v.coerce →
      items.IsChain fun a b => canonicalCompare a b = .lt := by
    rw [coerce_eq_self_iff]
    exact ⟨fun h items hitems => h _ hitems, fun h u hu => isSettled_of_within_coerce hu h⟩
  exact ⟨hiff, fun hv => hiff.mpr fun _ h => (set_pairwise_of_within_coerce hv h).isChain⟩

def mixed : Value :=
  set [double ⟨0x4008000000000000⟩, int 3, set [text "b", text "a"], enum ⟨"c", none⟩]

theorem mixed_isCommensurable : mixed.IsCommensurable := by
  intro i x hi _
  obtain rfl : i = 3 := by simpa [mixed, within_set, within_scalar, isCollection] using hi
  decide

theorem coerce_mixed : mixed.IsCommensurable ∧
    mixed.coerce = set [double ⟨0x4008000000000000⟩, text "c", set [text "a", text "b"]] ∧
    mixed.coerce.coerce = mixed.coerce :=
  ⟨mixed_isCommensurable, rfl, (coerce_coerce_eq_iff mixed).2 mixed_isCommensurable⟩

def straddled : Value :=
  set [int 9007199254740993, double ⟨0x4340000000000000⟩, int 9007199254740992]

theorem not_coerce_coerce_eq : ¬∀ v : Value, v.coerce.coerce = v.coerce := by
  intro h
  have hfirst : straddled.coerce = set [int 9007199254740993, int 9007199254740992] := rfl
  have hsecond : straddled.coerce.coerce = set [int 9007199254740992, int 9007199254740993] := rfl
  rw [h, hfirst] at hsecond
  injection hsecond with hitems
  injection hitems with hint
  injection hint with heq
  exact absurd heq (by decide)

end WideColumn.Value

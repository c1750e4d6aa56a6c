import WideColumn.Proofs.Value.Equality
import WideColumn.Proofs.Value.Sorting

namespace WideColumn

namespace Value

def elements (v : Value) : List Value :=
  v.asSequence.getD []

theorem coerceItems_eq (items : List Value) : coerceItems items = items.map coerce := by
  induction items with
  | nil => rfl
  | cons v vs ih => rw [coerceItems, ih, List.map_cons]

def coerceEntry (e : Value × Value) : Value × Value :=
  (e.1.coerce, e.2.coerce)

theorem coerceEntries_eq (entries : List (Value × Value)) :
    coerceEntries entries = entries.map coerceEntry := by
  induction entries with
  | nil => rfl
  | cons e es ih =>
    rw [coerceEntries, ih, List.map_cons]
    rfl

theorem coerce_list (items : List Value) : (list items).coerce = list (items.map coerce) := by
  rw [coerce, coerceItems_eq]

theorem coerce_set (items : List Value) :
    (set items).coerce = set (canonicalItems (items.map coerce)) := by
  rw [coerce, coerceItems_eq]

theorem coerce_map (entries : List (Value × Value)) :
    (map entries).coerce = map (canonicalEntries (entries.map coerceEntry)) := by
  rw [coerce, coerceEntries_eq]

theorem asSequence_coerce_eq_none {v : Value} :
    v.coerce.asSequence = none ↔ v.asSequence = none := by
  cases v <;> simp [coerce, asSequence]

theorem elements_list (items : List Value) :
    (list items).coerce.elements = items.map coerce := by
  rw [coerce_list]
  rfl

theorem elements_set (items : List Value) :
    (set items).coerce.elements = canonicalItems (items.map coerce) := by
  rw [coerce_set]
  rfl

theorem exists_of_mem_elements_coerce {v r : Value} (h : r ∈ v.coerce.elements) :
    ∃ e ∈ v.elements, e.coerce = r := by
  cases v with
  | list items => exact List.mem_map.mp (elements_list items ▸ h)
  | set items =>
    rw [elements_set] at h
    exact List.mem_map.mp (Insertion.mem_of_mem_distinctSort h)
  | _ => simp [coerce, elements, asSequence] at h

def KeepsElements (v : Value) : Prop :=
  ∀ e ∈ v.elements, ∃ r ∈ v.coerce.elements, r = e.coerce ∨ r.looseEq e.coerce = true

theorem keepsElements_list (items : List Value) : (list items).KeepsElements := by
  intro e he
  refine ⟨e.coerce, ?_, .inl rfl⟩
  rw [elements_list]
  exact List.mem_map_of_mem he

theorem isCollection_coerce (v : Value) : v.coerce.isCollection = v.isCollection := by
  cases v <;> rfl

theorem looseEq_of_canonicalCompare {x y : Value} (hx : x.isCollection = false)
    (h : canonicalCompare x y = .eq) : y = x ∨ y.looseEq x = true := by
  cases x <;> cases y <;> simp [canonicalCompare, rank, isCollection] at hx h
  case int.double i x =>
    rw [← Std.LawfulEqOrd.eq_of_compare (α := Double) h]
    exact .inr (Double.sameNumber_self (Double.isNaN_ofInt64 i))
  case double.int x i =>
    rw [Std.LawfulEqOrd.eq_of_compare (α := Double) h]
    exact .inr (Double.sameNumber_self (Double.isNaN_ofInt64 i))
  case double.double =>
    rw [Std.LawfulEqOrd.eq_of_compare (α := Double) h]
    exact .inl rfl
  case enum.enum d e =>
    have hlabel : d.label = e.label := by
      rw [EnumLabel.compare, Ordering.then_eq_eq, Std.LawfulEqOrd.compare_eq_iff_eq] at h
      exact h.1
    exact .inr (beq_iff_eq.mpr hlabel.symm)
  case type.type s t =>
    cases s
    cases t
    exact .inl (by simpa using h.symm)
  all_goals simp [h]

theorem keepsElements_set {items : List Value} (h : ∀ e ∈ items, e.isCollection = false) :
    (set items).KeepsElements := by
  intro e he
  obtain ⟨r, hr, heq⟩ :=
    Insertion.exists_mem_distinctSort canonicalCompare (List.mem_map_of_mem (f := coerce) he)
  refine ⟨r, elements_set items ▸ hr, ?_⟩
  rcases heq with rfl | heq
  · exact .inl rfl
  · exact looseEq_of_canonicalCompare ((isCollection_coerce e).trans (h e he)) heq

theorem keepsElements_of_scalars {v : Value} (h : ∀ e ∈ v.elements, e.isCollection = false) :
    v.KeepsElements := by
  cases v with
  | list items => exact keepsElements_list items
  | set items => exact keepsElements_set h
  | _ => exact fun _ he => absurd he List.not_mem_nil

/-- Loose equality between the values does not depend on coercion, and stays transitive. -/
structure Interchangeable (vs : List Value) : Prop where
  coerced : ∀ x ∈ vs, ∀ y ∈ vs, x.looseEq y = x.coerce.looseEq y.coerce
  exact : ∀ x ∈ vs, x.coerce.isExact = true

def isPlain : Value → Bool
  | int i => i.toInt.natAbs < Double.exactLimit
  | enum _ | type _ | list _ | set _ | map _ => false
  | _ => true

theorem of_isPlain {v : Value} (h : v.isPlain = true) :
    v.coerce = v ∧ v.isExact = true ∧ v.isCollection = false := by
  cases v with
  | enum _ | type _ | list _ | set _ | map _ => contradiction
  | int _ => exact ⟨rfl, h, rfl⟩
  | _ => exact ⟨rfl, rfl, rfl⟩

theorem interchangeable_of_plain {vs : List Value} (h : ∀ v ∈ vs, v.isPlain = true) :
    Interchangeable vs where
  coerced x hx y hy := by rw [(of_isPlain (h x hx)).1, (of_isPlain (h y hy)).1]
  exact x hx := by
    rw [(of_isPlain (h x hx)).1]
    exact (of_isPlain (h x hx)).2.1

end Value

end WideColumn

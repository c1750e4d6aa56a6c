import WideColumn.Number.Double
import WideColumn.Value.Basic

open Std (OrientedOrd TransOrd TransCmp LawfulEqOrd LawfulEqCmp)

namespace WideColumn

variable {α κ β : Type} [Ord α] [Ord κ]

structure SortedSet (α : Type) [Ord α] where
  items : List α := []
  ascending : items.Pairwise (fun a b => compare a b = .lt) := by simp

namespace SortedSet

def insertItem (x : α) : List α → List α
  | [] => [x]
  | y :: ys =>
    match compare x y with
    | .lt => x :: y :: ys
    | .eq => y :: ys
    | .gt => y :: insertItem x ys

theorem mem_insertItem {x z : α} {ys : List α} (h : z ∈ insertItem x ys) : z = x ∨ z ∈ ys := by
  induction ys with
  | nil => simpa [insertItem] using h
  | cons y ys ih =>
    simp only [insertItem] at h
    split at h
    · simpa using h
    · exact .inr h
    · rcases List.mem_cons.mp h with rfl | h
      · simp
      · exact (ih h).imp id (List.mem_cons_of_mem y)

theorem ascending_insertItem [TransOrd α] (x : α) {ys : List α}
    (h : ys.Pairwise (fun a b => compare a b = .lt)) :
    (insertItem x ys).Pairwise (fun a b => compare a b = .lt) := by
  induction ys with
  | nil => simp [insertItem]
  | cons y ys ih =>
    have hy := List.pairwise_cons.mp h
    simp only [insertItem]
    split
    · next hlt =>
      refine List.pairwise_cons.mpr ⟨fun z hz => ?_, h⟩
      rcases List.mem_cons.mp hz with rfl | hz
      · exact hlt
      · exact TransCmp.lt_trans hlt (hy.1 z hz)
    · exact h
    · next hgt =>
      refine List.pairwise_cons.mpr ⟨fun z hz => ?_, ih hy.2⟩
      rcases mem_insertItem hz with rfl | hz
      · exact Std.OrientedCmp.lt_of_gt hgt
      · exact hy.1 z hz

def insert [TransOrd α] (s : SortedSet α) (x : α) : SortedSet α :=
  ⟨insertItem x s.items, ascending_insertItem x s.ascending⟩

def ofList [TransOrd α] (xs : List α) : SortedSet α :=
  xs.foldl insert {}

instance : Ord (SortedSet α) := ⟨fun s t => compare s.items t.items⟩

instance [TransOrd α] : TransOrd (SortedSet α) where
  eq_swap := OrientedOrd.eq_swap (α := List α)
  isLE_trans := TransOrd.isLE_trans (α := List α)

instance [LawfulEqOrd α] : LawfulEqOrd (SortedSet α) where
  compare_self := Std.ReflOrd.compare_self (α := List α)
  eq_of_compare {s t} h := by
    cases s
    cases t
    cases LawfulEqOrd.eq_of_compare (α := List α) h
    rfl

end SortedSet

structure SortedMap (κ β : Type) [Ord κ] where
  entries : List (κ × β) := []
  ascending : entries.Pairwise (fun a b => compare a.1 b.1 = .lt) := by simp

namespace SortedMap

def insertEntry (k : κ) (v : β) : List (κ × β) → List (κ × β)
  | [] => [(k, v)]
  | e :: es =>
    match compare k e.1 with
    | .lt => (k, v) :: e :: es
    | .eq => (k, v) :: es
    | .gt => e :: insertEntry k v es

theorem mem_insertEntry {k : κ} {v : β} {z : κ × β} {es : List (κ × β)}
    (h : z ∈ insertEntry k v es) : z = (k, v) ∨ z ∈ es := by
  induction es with
  | nil => simpa [insertEntry] using h
  | cons e es ih =>
    simp only [insertEntry] at h
    split at h
    · simpa using h
    · exact (List.mem_cons.mp h).imp id (List.mem_cons_of_mem e)
    · rcases List.mem_cons.mp h with rfl | h
      · simp
      · exact (ih h).imp id (List.mem_cons_of_mem e)

theorem ascending_insertEntry [TransOrd κ] (k : κ) (v : β) {es : List (κ × β)}
    (h : es.Pairwise (fun a b => compare a.1 b.1 = .lt)) :
    (insertEntry k v es).Pairwise (fun a b => compare a.1 b.1 = .lt) := by
  induction es with
  | nil => simp [insertEntry]
  | cons e es ih =>
    have he := List.pairwise_cons.mp h
    simp only [insertEntry]
    split
    · next hlt =>
      refine List.pairwise_cons.mpr ⟨fun z hz => ?_, h⟩
      rcases List.mem_cons.mp hz with rfl | hz
      · exact hlt
      · exact TransCmp.lt_trans hlt (he.1 z hz)
    · next heq =>
      refine List.pairwise_cons.mpr ⟨fun z hz => ?_, he.2⟩
      exact (TransCmp.congr_left heq).trans (he.1 z hz)
    · next hgt =>
      refine List.pairwise_cons.mpr ⟨fun z hz => ?_, ih he.2⟩
      rcases mem_insertEntry hz with rfl | hz
      · exact Std.OrientedCmp.lt_of_gt hgt
      · exact he.1 z hz

def insert [TransOrd κ] (m : SortedMap κ β) (k : κ) (v : β) : SortedMap κ β :=
  ⟨insertEntry k v m.entries, ascending_insertEntry k v m.ascending⟩

def ofList [TransOrd κ] (es : List (κ × β)) : SortedMap κ β :=
  es.foldl (fun m e => m.insert e.1 e.2) {}

def compareEntry [Ord β] : κ × β → κ × β → Ordering :=
  compareLex (compareOn Prod.fst) (compareOn Prod.snd)

instance [Ord β] [TransOrd κ] [TransOrd β] : TransCmp (compareEntry (κ := κ) (β := β)) :=
  inferInstanceAs (TransCmp (compareLex _ _))

instance [Ord β] [LawfulEqOrd κ] [LawfulEqOrd β] :
    LawfulEqCmp (compareEntry (κ := κ) (β := β)) where
  compare_self := by simp [compareEntry, compareLex, compareOn]
  eq_of_compare {a b} h := by
    simp only [compareEntry, compareLex_eq_eq, compareOn] at h
    exact Prod.ext (LawfulEqOrd.eq_of_compare h.1) (LawfulEqOrd.eq_of_compare h.2)

def compareEntries [Ord β] : List (κ × β) → List (κ × β) → Ordering :=
  List.compareLex compareEntry

instance [Ord β] [TransOrd κ] [TransOrd β] : TransCmp (compareEntries (κ := κ) (β := β)) :=
  inferInstanceAs (TransCmp (List.compareLex compareEntry))

instance [Ord β] [LawfulEqOrd κ] [LawfulEqOrd β] :
    LawfulEqCmp (compareEntries (κ := κ) (β := β)) :=
  inferInstanceAs (LawfulEqCmp (List.compareLex compareEntry))

instance [Ord β] : Ord (SortedMap κ β) :=
  ⟨fun m n => compareEntries m.entries n.entries⟩

theorem compare_eq [Ord β] (m n : SortedMap κ β) :
    compare m n = compareEntries m.entries n.entries :=
  rfl

instance [Ord β] [TransOrd κ] [TransOrd β] : TransOrd (SortedMap κ β) where
  eq_swap {m n} := by
    rw [compare_eq, compare_eq]
    exact Std.OrientedCmp.eq_swap
  isLE_trans {m n l} h₁ h₂ := by
    rw [compare_eq] at *
    exact TransCmp.isLE_trans h₁ h₂

instance [Ord β] [LawfulEqOrd κ] [LawfulEqOrd β] : LawfulEqOrd (SortedMap κ β) where
  compare_self {m} := by
    rw [compare_eq]
    exact Std.ReflCmp.compare_self
  eq_of_compare {m n} h := by
    rw [compare_eq] at h
    cases m
    cases n
    cases LawfulEqCmp.eq_of_compare h
    rfl

end SortedMap

end WideColumn

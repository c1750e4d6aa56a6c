import WideColumn.Value.Compare

namespace WideColumn

namespace Insertion

variable {α : Type}

/-- Inserts into a list that is sorted last first: the new element moves past those it is below. -/
def insertLast (below : α → α → Bool) (x : α) : List α → List α
  | [] => [x]
  | y :: ys => if below x y then y :: insertLast below x ys else x :: y :: ys

/-- Stable insertion sort. Every stable sort answers the same where `below` comes from a total
order. Where it does not, a sort that inserts, as is usual for up to 20 elements, answers this; the
order of more elements is unspecified then, and sorting them may even fail. -/
def sort (below : α → α → Bool) (xs : List α) : List α :=
  (xs.foldl (fun sorted x => insertLast below x sorted) []).reverse

def dropRepeats (equal : α → α → Bool) (kept : α) : List α → List α
  | [] => [kept]
  | x :: xs =>
    if equal x kept then dropRepeats equal kept xs else kept :: dropRepeats equal x xs

def distinctSort (order : α → α → Ordering) (xs : List α) : List α :=
  match sort (fun a b => order a b == .lt) xs with
  | [] => []
  | x :: rest => dropRepeats (fun a b => order a b == .eq) x rest

end Insertion

namespace Value

def canonicalItems (items : List Value) : List Value :=
  Insertion.distinctSort canonicalCompare items

/-- A map's entries in canonical key order; entries of one key keep their order. -/
def canonicalEntries (entries : List (Value × Value)) : List (Value × Value) :=
  Insertion.sort (fun a b => canonicalCompare a.1 b.1 == .lt) entries

mutual

/-- The native form of a value: labels and type names as text, sets in canonical order without
repetition, maps sorted by key, all at any depth. -/
def coerce : Value → Value
  | enum e => text e.label
  | type t => text t.name
  | list items => list (coerceItems items)
  | set items => set (canonicalItems (coerceItems items))
  | map entries => map (canonicalEntries (coerceEntries entries))
  | v => v

def coerceItems : List Value → List Value
  | [] => []
  | v :: vs => coerce v :: coerceItems vs

def coerceEntries : List (Value × Value) → List (Value × Value)
  | [] => []
  | (k, v) :: es => (coerce k, coerce v) :: coerceEntries es

end

end Value

end WideColumn

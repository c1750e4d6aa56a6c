import WideColumn.Proofs.Value.Coercion
import WideColumn.Record.FieldType

open Std (TransOrd OrientedCmp)

namespace WideColumn

section Sorted

variable {α κ β : Type} [Ord α] [TransOrd α] [Ord κ] [TransOrd κ]

namespace SortedSet

theorem insertItem_last {x : α} {ys : List α} (h : ∀ y ∈ ys, compare y x = .lt) :
    insertItem x ys = ys ++ [x] := by
  induction ys with
  | nil => rfl
  | cons y ys ih =>
    have hgt := OrientedCmp.gt_of_lt (h y List.mem_cons_self)
    rw [insertItem, hgt, List.cons_append, ← ih fun z hz => h z (List.mem_cons_of_mem y hz)]

theorem items_foldl_insert {xs : List α} {s : SortedSet α}
    (h : (s.items ++ xs).Pairwise fun a b => compare a b = .lt) :
    (xs.foldl insert s).items = s.items ++ xs := by
  induction xs generalizing s with
  | nil => exact (List.append_nil _).symm
  | cons x xs ih =>
    have hlast : (s.insert x).items = s.items ++ [x] :=
      insertItem_last fun y hy => (List.pairwise_append.mp h).2.2 y hy x List.mem_cons_self
    rw [List.foldl_cons, ih (by rwa [hlast, List.append_assoc]), hlast, List.append_assoc]
    rfl

theorem ofList_items (s : SortedSet α) : ofList s.items = s := by
  have hitems : (ofList s.items).items = s.items := items_foldl_insert s.ascending
  generalize ofList s.items = t at hitems
  cases s
  cases t
  cases hitems
  rfl

end SortedSet

namespace SortedMap

theorem insertEntry_last {k : κ} {v : β} {es : List (κ × β)}
    (h : ∀ e ∈ es, compare e.1 k = .lt) : insertEntry k v es = es ++ [(k, v)] := by
  induction es with
  | nil => rfl
  | cons e es ih =>
    have hgt := OrientedCmp.gt_of_lt (h e List.mem_cons_self)
    rw [insertEntry, hgt, List.cons_append, ← ih fun z hz => h z (List.mem_cons_of_mem e hz)]

theorem entries_foldl_insert {es : List (κ × β)} {m : SortedMap κ β}
    (h : (m.entries ++ es).Pairwise fun a b => compare a.1 b.1 = .lt) :
    (es.foldl (fun m e => m.insert e.1 e.2) m).entries = m.entries ++ es := by
  induction es generalizing m with
  | nil => exact (List.append_nil _).symm
  | cons e es ih =>
    have hlast : (m.insert e.1 e.2).entries = m.entries ++ [e] :=
      insertEntry_last fun y hy => (List.pairwise_append.mp h).2.2 y hy e List.mem_cons_self
    rw [List.foldl_cons, ih (by rwa [hlast, List.append_assoc]), hlast, List.append_assoc]
    rfl

theorem ofList_entries (m : SortedMap κ β) : ofList m.entries = m := by
  have hentries : (ofList m.entries).entries = m.entries := entries_foldl_insert m.ascending
  generalize ofList m.entries = n at hentries
  cases m
  cases n
  cases hentries
  rfl

end SortedMap

end Sorted

namespace Value

variable {α β : Type} {v : Value}

theorem canonicalCompare_null_left (h : v.isNull = false) : canonicalCompare null v = .lt := by
  cases v <;> first | contradiction | rfl

theorem canonicalCompare_null_right (h : v.isNull = false) : canonicalCompare v null = .gt := by
  cases v <;> first | contradiction | rfl

theorem canonicalCompareItems_map {f : α → Value} {order : α → α → Ordering}
    (h : ∀ x y, canonicalCompare (f x) (f y) = order x y) (xs ys : List α) :
    canonicalCompareItems (xs.map f) (ys.map f) = List.compareLex order xs ys := by
  induction xs generalizing ys with
  | nil => cases ys <;> rfl
  | cons x xs ih =>
    cases ys with
    | nil => rfl
    | cons y ys =>
      rw [List.map_cons, List.map_cons, canonicalCompareItems, h, ih, List.compareLex_cons_cons]

theorem canonicalCompareEntries_map {f : α → Value} {g : β → Value}
    {order : α × β → α × β → Ordering}
    (h : ∀ d e, (canonicalCompare (f d.1) (f e.1)).then (canonicalCompare (g d.2) (g e.2)) =
      order d e)
    (xs ys : List (α × β)) :
    canonicalCompareEntries (xs.map fun e => (f e.1, g e.2)) (ys.map fun e => (f e.1, g e.2)) =
      List.compareLex order xs ys := by
  induction xs generalizing ys with
  | nil => cases ys <;> rfl
  | cons x xs ih =>
    cases ys with
    | nil => rfl
    | cons y ys =>
      rw [List.map_cons, List.map_cons, canonicalCompareEntries, h, ih, List.compareLex_cons_cons]

section Native

variable {f : α → Value} {g : β → Value} (hf : ∀ x, (f x).coerce = f x)

include hf

theorem coerce_list_map (xs : List α) : (list (xs.map f)).coerce = list (xs.map f) := by
  rw [coerce_list, List.map_map]
  exact congrArg list (List.map_congr_left fun x _ => hf x)

theorem coerce_set_map {xs : List α}
    (h : xs.Pairwise fun x y => canonicalCompare (f y) (f x) = .gt) :
    (set (xs.map f)).coerce = set (xs.map f) := by
  have hitems : (xs.map f).map coerce = xs.map f := by
    rw [List.map_map]
    exact List.map_congr_left fun x _ => hf x
  rw [coerce_set, hitems, canonicalItems,
    Insertion.distinctSort_eq_self (List.pairwise_map.mpr h).isChain]

theorem coerce_map_map (hg : ∀ x, (g x).coerce = g x) {es : List (α × β)}
    (h : es.Pairwise fun d e => canonicalCompare (f e.1) (f d.1) = .gt) :
    (map (es.map fun e => (f e.1, g e.2))).coerce = map (es.map fun e => (f e.1, g e.2)) := by
  have hentries : (es.map fun e => (f e.1, g e.2)).map coerceEntry =
      es.map fun e => (f e.1, g e.2) := by
    rw [List.map_map]
    exact List.map_congr_left fun e _ => Prod.ext (hf e.1) (hg e.2)
  have hsorted : (es.map fun e => (f e.1, g e.2)).Pairwise
      fun a b => (canonicalCompare b.1 a.1 == .lt) = false :=
    List.pairwise_map.mpr (h.imp fun hgt => by rw [hgt]; rfl)
  rw [coerce_map, hentries, canonicalEntries, Insertion.sort_eq_self hsorted.isChain]

end Native

end Value

namespace FieldType

open Value (canonicalCompare)

def isOption : FieldType → Bool
  | option _ => true
  | _ => false

/-- The types of plain fields: no type names, and no option right within another. -/
def isPlain : FieldType → Bool
  | typeName => false
  | option item => !item.isOption && item.isPlain
  | list item | set item => item.isPlain
  | map key value => key.isPlain && value.isPlain
  | _ => true

theorem isNull_encode {t : FieldType} (h : t.isOption = false) (x : t.Carrier) :
    (t.encode x).isNull = false := by
  cases t <;> first | contradiction | rfl

theorem compare_toInt64 (x y : Int32) : compare x.toInt64 y.toInt64 = compare x y := by
  have hinj : x.toInt64 = y.toInt64 ↔ x = y :=
    ⟨fun h => by rw [← Int32.toInt32_toInt64 x, h, Int32.toInt32_toInt64], congrArg _⟩
  simp only [compare, compareOfLessAndEq, Int32.toInt64_lt, hinj]

theorem canonicalCompare_encode {t : FieldType} (ht : t.isPlain = true) (x y : t.Carrier) :
    canonicalCompare (t.encode x) (t.encode y) = compare x y := by
  induction t with
  | bool | int64 | double | text => rfl
  | int32 => exact compare_toInt64 x y
  | typeName => contradiction
  | option item ih =>
    -- a null is below everything, as none is; only an item that is no option itself is never null
    rw [isPlain, Bool.and_eq_true, Bool.not_eq_true'] at ht
    cases x with
    | none =>
      cases y with
      | none => rfl
      | some y => exact Value.canonicalCompare_null_left (isNull_encode ht.1 y)
    | some x =>
      cases y with
      | none => exact Value.canonicalCompare_null_right (isNull_encode ht.1 x)
      | some y => exact ih ht.2 x y
  | list item ih => exact Value.canonicalCompareItems_map (ih ht) x y
  | set item ih =>
    exact Value.canonicalCompareItems_map (ih ht) (SortedSet.items x) (SortedSet.items y)
  | map key value ihk ihv =>
    rw [isPlain, Bool.and_eq_true] at ht
    refine Value.canonicalCompareEntries_map (fun d e => ?_) (SortedMap.entries x)
      (SortedMap.entries y)
    rw [ihk ht.1, ihv ht.2]
    rfl

theorem coerce_encode {t : FieldType} (ht : t.isPlain = true) (x : t.Carrier) :
    (t.encode x).coerce = t.encode x := by
  induction t with
  | bool | int64 | int32 | double | text => rfl
  | typeName => contradiction
  | option item ih =>
    rw [isPlain, Bool.and_eq_true] at ht
    cases x with
    | none => rfl
    | some x => exact ih ht.2 x
  | list item ih => exact Value.coerce_list_map (ih ht) x
  | set item ih =>
    -- ascending elements are sorted and hold no repetition to drop
    have ht : item.isPlain = true := ht
    refine Value.coerce_set_map (ih ht) ((SortedSet.ascending x).imp ?_)
    intro y z hlt
    exact (canonicalCompare_encode ht z y).trans (OrientedCmp.gt_of_lt hlt)
  | map key value ihk ihv =>
    rw [isPlain, Bool.and_eq_true] at ht
    refine Value.coerce_map_map (ihk ht.1) (ihv ht.2) ((SortedMap.ascending x).imp ?_)
    intro d e hlt
    exact (canonicalCompare_encode ht.1 e.1 d.1).trans (OrientedCmp.gt_of_lt hlt)

theorem decodeItems_map {α β : Type} {decode : β → Option α} {encode : α → β}
    (h : ∀ x, decode (encode x) = some x) (xs : List α) :
    decodeItems decode (xs.map encode) = some xs := by
  induction xs with
  | nil => rfl
  | cons x xs ih =>
    rw [List.map_cons, decodeItems, h, ih]
    rfl

theorem decodeEntries_map {α β : Type} {decodeKey : Value → Option α} {encodeKey : α → Value}
    {decodeValue : Value → Option β} {encodeValue : β → Value}
    (hkey : ∀ x, decodeKey (encodeKey x) = some x)
    (hvalue : ∀ y, decodeValue (encodeValue y) = some y) (es : List (α × β)) :
    decodeItems (fun e => do return (← decodeKey e.1, ← decodeValue e.2))
      (es.map fun e => (encodeKey e.1, encodeValue e.2)) = some es := by
  refine decodeItems_map (fun e => ?_) es
  rw [hkey, hvalue]
  rfl

theorem fitsInt32_toInt64 (x : Int32) : fitsInt32 x.toInt64 = true := by
  rw [fitsInt32, Int32.toInt_toInt64, Bool.and_eq_true, decide_eq_true_eq, decide_eq_true_eq]
  exact ⟨Int32.minValue_le_toInt x, Int32.toInt_le x⟩

theorem decode_toInt64 (x : Int32) : int32.decode (.int x.toInt64) = some x := by
  rw [decode, fitsInt32_toInt64, if_pos rfl, Int32.toInt32_toInt64]
  rfl

theorem decode_option {item : FieldType} {v : Value} (h : v.isNull = false) :
    (option item).decode v = (item.decode v).map some := by
  cases v <;> first | contradiction | rfl

theorem decode_encode {t : FieldType} (ht : t.isPlain = true) (x : t.Carrier) :
    t.decode (t.encode x) = some x := by
  induction t with
  | bool | int64 | double | text => rfl
  | int32 => exact decode_toInt64 x
  | typeName => contradiction
  | option item ih =>
    rw [isPlain, Bool.and_eq_true, Bool.not_eq_true'] at ht
    cases x with
    | none => rfl
    | some x =>
      refine (decode_option (isNull_encode ht.1 x)).trans ?_
      rw [ih ht.2]
      rfl
  | list item ih => exact decodeItems_map (ih ht) x
  | set item ih =>
    have hitems := decodeItems_map (ih ht) (SortedSet.items x)
    exact (congrArg (Option.map SortedSet.ofList) hitems).trans
      (congrArg some (SortedSet.ofList_items x))
  | map key value ihk ihv =>
    rw [isPlain, Bool.and_eq_true] at ht
    have hentries := decodeEntries_map (ihk ht.1) (ihv ht.2) (SortedMap.entries x)
    exact (congrArg (Option.map SortedMap.ofList) hentries).trans
      (congrArg some (SortedMap.ofList_entries x))

theorem encode_injective {t : FieldType} (ht : t.isPlain = true) {x y : t.Carrier}
    (h : t.encode x = t.encode y) : x = y := by
  have hdecode := congrArg t.decode h
  rw [decode_encode ht, decode_encode ht] at hdecode
  exact Option.some.inj hdecode

end FieldType

end WideColumn

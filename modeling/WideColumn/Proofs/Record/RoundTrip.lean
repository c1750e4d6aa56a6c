import WideColumn.Proofs.Record.Encoding

/-!
Field types whose values come back. Every value of a plain type is encoded in its native form and
decoded from it again. No other type has this: a type name is lowered to text, and of an option
right within another two values are encoded as null.
-/

namespace WideColumn

namespace Value

theorem coerce_list_singleton (v : Value) : (list [v]).coerce = list [v.coerce] :=
  coerce_list [v]

theorem coerce_set_singleton (v : Value) : (set [v]).coerce = set [v.coerce] :=
  coerce_set [v]

theorem coerce_map_singleton (k v : Value) : (map [(k, v)]).coerce = map [(k.coerce, v.coerce)] :=
  coerce_map [(k, v)]

end Value

namespace FieldType

theorem decodeItems_singleton {α β : Type} (decode : α → Option β) (x : α) :
    decodeItems decode [x] = (decode x).map fun y => [y] := by
  rw [decodeItems]
  cases decode x <;> rfl

def RoundTrips (t : FieldType) (x : t.Carrier) : Prop :=
  (t.encode x).coerce = t.encode x ∧ t.decode (t.encode x) = some x

section Parts

variable {item key value : FieldType}

theorem not_isOption_of_roundTrips (h : (option item).RoundTrips (some item.blank)) :
    item.isOption = false := by
  cases item with
  | option item =>
    -- both the blank option and the option that holds it are null
    have hnull : some none = some (some (option item).blank) := h.2
    cases hnull
  | _ => rfl

theorem RoundTrips.of_option {x : item.Carrier} (hitem : item.isOption = false)
    (h : (option item).RoundTrips (some x)) : item.RoundTrips x := by
  obtain ⟨hcoerce, hdecode⟩ := h
  refine ⟨hcoerce, ?_⟩
  have hdecoded := (decode_option (isNull_encode hitem x)).symm.trans hdecode
  exact Option.map_injective (Option.some_injective _) hdecoded

theorem RoundTrips.of_list {x : item.Carrier} (h : (list item).RoundTrips [x]) :
    item.RoundTrips x := by
  obtain ⟨hcoerce, hdecode⟩ := h
  have hitems := (Value.coerce_list_singleton (item.encode x)).symm.trans hcoerce
  have hdecoded := (decodeItems_singleton item.decode (item.encode x)).symm.trans hdecode
  obtain ⟨y, hy, heq⟩ := Option.map_eq_some_iff.mp hdecoded
  cases heq
  exact ⟨List.head_eq_of_cons_eq (Value.list.inj hitems), hy⟩

theorem RoundTrips.of_set {x : item.Carrier} (h : (set item).RoundTrips (SortedSet.ofList [x])) :
    item.RoundTrips x := by
  obtain ⟨hcoerce, hdecode⟩ := h
  have hitems := (Value.coerce_set_singleton (item.encode x)).symm.trans hcoerce
  obtain ⟨ys, hys, heq⟩ := Option.map_eq_some_iff.mp hdecode
  have hdecoded := (decodeItems_singleton item.decode (item.encode x)).symm.trans hys
  obtain ⟨y, hy, rfl⟩ := Option.map_eq_some_iff.mp hdecoded
  have hyx : y = x := List.head_eq_of_cons_eq (congrArg SortedSet.items heq)
  exact ⟨List.head_eq_of_cons_eq (Value.set.inj hitems), hyx ▸ hy⟩

theorem RoundTrips.of_map {k : key.Carrier} {v : value.Carrier}
    (h : (map key value).RoundTrips (SortedMap.ofList [(k, v)])) :
    key.RoundTrips k ∧ value.RoundTrips v := by
  obtain ⟨hcoerce, hdecode⟩ := h
  have hentries := (Value.coerce_map_singleton (key.encode k) (value.encode v)).symm.trans hcoerce
  obtain ⟨hk, hv⟩ := Prod.mk.inj (List.head_eq_of_cons_eq (Value.map.inj hentries))
  obtain ⟨es, hes, heq⟩ := Option.map_eq_some_iff.mp hdecode
  have hdecoded := (decodeItems_singleton _ (key.encode k, value.encode v)).symm.trans hes
  obtain ⟨e, he, rfl⟩ := Option.map_eq_some_iff.mp hdecoded
  obtain ⟨l, hl, he⟩ := Option.bind_eq_some_iff.mp he
  obtain ⟨w, hw, he⟩ := Option.bind_eq_some_iff.mp he
  cases he
  obtain ⟨rfl, rfl⟩ : l = k ∧ w = v :=
    Prod.mk.inj (List.head_eq_of_cons_eq (congrArg SortedMap.entries heq))
  exact ⟨⟨hk, hl⟩, hv, hw⟩

theorem isPlain_of_roundTrips {t : FieldType} (h : ∀ x, t.RoundTrips x) : t.isPlain = true := by
  induction t with
  | bool | int64 | int32 | double | text => rfl
  | typeName =>
    have hcoerce := (h (⟨""⟩ : TypeName)).1
    cases hcoerce
  | option item ih =>
    have hitem := not_isOption_of_roundTrips (h (some item.blank))
    rw [isPlain, hitem, ih fun x => (h (some x)).of_option hitem]
    rfl
  | list item ih => exact ih fun x => (h [x]).of_list
  | set item ih => exact ih fun x => (h (SortedSet.ofList [x])).of_set
  | map key value ihk ihv =>
    have hkey := ihk fun k => (h (SortedMap.ofList [(k, value.blank)])).of_map.1
    have hvalue := ihv fun v => (h (SortedMap.ofList [(key.blank, v)])).of_map.2
    rw [isPlain, hkey, hvalue]
    rfl

end Parts

/-- All values of a type round trip if and only if it is made of booleans, integers, doubles and
texts by lists, sets, maps and options, with no option right within another. -/
theorem isPlain_iff_roundTrips (t : FieldType) :
    t.isPlain = true ↔
      ∀ x : t.Carrier, (t.encode x).coerce = t.encode x ∧ t.decode (t.encode x) = some x :=
  ⟨fun h x => ⟨coerce_encode h x, decode_encode h x⟩, isPlain_of_roundTrips⟩

end FieldType

end WideColumn

import WideColumn.Proofs.Value.Idempotence

namespace WideColumn.Value

section Typed

variable {u v w : Value}

theorem numbersIn_of_mem_map_coerce {xs : List Value} (hxs : ∀ x ∈ xs, x.Within v) :
    ∀ y ∈ xs.map coerce, NumbersIn v.IsNumberOf y := by
  intro y hy
  obtain ⟨x, hx, rfl⟩ := List.mem_map.mp hy
  exact numbersIn_coerce (hxs x hx)

variable (h : v.IsTyped)

include h

theorem IsTyped.of_within (hw : w.Within v) : w.IsTyped :=
  fun i x hi hx => h i x (hi.trans hw) (hx.trans hw)

theorem coerce_mem_parts_coerce (hu : u ∈ v.parts) : u.coerce ∈ v.coerce.parts := by
  cases v with
  | list items =>
    rw [coerce_list]
    exact List.mem_map_of_mem hu
  | set items =>
    have hnumbers : ∀ y ∈ items.map coerce, NumbersIn (set items).IsNumberOf y :=
      numbersIn_of_mem_map_coerce fun _ hx => .of_part hx
    rw [coerce_set]
    exact (Insertion.mem_distinctSort h.separatesOn hnumbers).mpr (List.mem_map_of_mem hu)
  | map entries =>
    obtain ⟨e, he, heq⟩ := mem_parts_map.mp hu
    rw [coerce_map, mem_parts_map]
    refine ⟨coerceEntry e, (Insertion.sort_perm _ _).mem_iff.mpr (List.mem_map_of_mem he), ?_⟩
    exact heq.imp (congrArg coerce) (congrArg coerce)
  | _ => exact absurd hu List.not_mem_nil

theorem within_coerce_iff : u.Within v.coerce ↔ ∃ w : Value, w.Within v ∧ w.coerce = u := by
  refine ⟨exists_of_within_coerce, ?_⟩
  rintro ⟨w, hw, rfl⟩
  induction hw with
  | self => exact .self
  | part hpart _ ih =>
    exact .part (coerce_mem_parts_coerce h hpart) (ih (h.of_within (.of_part hpart)))

theorem list_within_coerce_iff {items : List Value} :
    (list items).Within v.coerce ↔ ∃ xs, (list xs).Within v ∧ xs.map coerce = items := by
  rw [within_coerce_iff h]
  constructor
  · rintro ⟨w, hw, hcoerce⟩
    cases w <;> try contradiction
    rename_i xs
    rw [coerce_list] at hcoerce
    exact ⟨xs, hw, list.inj hcoerce⟩
  · rintro ⟨xs, hxs, rfl⟩
    exact ⟨list xs, hxs, coerce_list xs⟩

end Typed

section Collections

theorem canonicalItems_congr {xs ys : List Value} (h : (set xs).IsTyped)
    (hmem : ∀ x, x ∈ xs.map coerce ↔ x ∈ ys.map coerce) :
    (set xs).coerce = (set ys).coerce := by
  have hnumbers : ∀ y ∈ xs.map coerce, NumbersIn (set xs).IsNumberOf y :=
    numbersIn_of_mem_map_coerce fun _ hx => .of_part hx
  rw [coerce_set, coerce_set]
  exact congrArg set
    (Insertion.distinctSort_congr h.isCommensurable.composesOn h.separatesOn hnumbers hmem)

theorem canonicalEntries_congr {es fs : List (Value × Value)} (h : (map es).IsTyped)
    (hkeys : (es.map fun e => e.1.coerce).Nodup)
    (hperm : (es.map coerceEntry).Perm (fs.map coerceEntry)) :
    (map es).coerce = (map fs).coerce := by
  have hnumbers : ∀ e ∈ es.map coerceEntry, NumbersIn (map es).IsNumberOf e.1 := by
    intro e he
    obtain ⟨d, hd, rfl⟩ := List.mem_map.mp he
    exact numbersIn_coerce (.of_part (mem_parts_map.mpr ⟨d, hd, .inl rfl⟩))
  -- keys that differ have different places
  have hne : (es.map coerceEntry).Pairwise fun d e => compareKeys d e ≠ .eq := by
    have hpairwise : (es.map coerceEntry).Pairwise fun d e => d.1 ≠ e.1 :=
      List.pairwise_map.mpr (List.pairwise_map.mp hkeys)
    refine hpairwise.imp_of_mem fun hd he hdiffer heq => ?_
    exact hdiffer (h.separatesOn _ _ (hnumbers _ hd) (hnumbers _ he) heq)
  have hcomp : ComposesOn compareKeys fun e => NumbersIn (map es).IsNumberOf e.1 :=
    fun c d e => h.isCommensurable.composesOn c.1 d.1 e.1
  have hsorted := Insertion.sort_congr hcomp hnumbers hne hperm
  rw [coerce_map, coerce_map]
  exact congrArg map hsorted

end Collections

/-- The coerced form of a typed value is native at every depth. It holds what the value holds, each
coerced, with lists as they were and sets strictly ascending. Of a set only the elements show in it,
and of a map with different keys only the entries, not their order. -/
theorem coerce_canonical {v : Value} (h : v.IsTyped) :
    (∀ u : Value, u.Within v.coerce → u.isNative = true) ∧
      (∀ u : Value, u.Within v.coerce ↔ ∃ w : Value, w.Within v ∧ w.coerce = u) ∧
      (∀ xs, v = list xs → v.coerce = list (xs.map coerce)) ∧
      (∀ items, (list items).Within v.coerce ↔
        ∃ xs, (list xs).Within v ∧ xs.map coerce = items) ∧
      (∀ items, (set items).Within v.coerce →
        items.Pairwise fun a b => canonicalCompare a b = .lt) ∧
      (∀ xs ys, v = set xs → (∀ x, x ∈ xs.map coerce ↔ x ∈ ys.map coerce) →
        (set ys).coerce = v.coerce) ∧
      (∀ es fs, v = map es → (es.map coerceEntry).Perm (fs.map coerceEntry) →
        (es.map fun e => e.1.coerce).Nodup → (map fs).coerce = v.coerce) := by
  refine ⟨fun u hu => ?_, fun u => within_coerce_iff h, ?_, fun items => list_within_coerce_iff h,
    fun items hitems => set_pairwise_of_within_coerce h.isCommensurable hitems, ?_, ?_⟩
  · obtain ⟨w, -, rfl⟩ := exists_of_within_coerce hu
    exact isNative_coerce w
  · rintro xs rfl
    exact coerce_list xs
  · rintro xs ys rfl hmem
    exact (canonicalItems_congr h hmem).symm
  · rintro es fs rfl hperm hkeys
    exact (canonicalEntries_congr h hkeys hperm).symm

def labelSet : Value :=
  set [list [text "b", text "a"], set [int 2, int 1, int 2], enum ⟨"c", none⟩, text "c"]

def labelMap : Value :=
  map [(enum ⟨"b", none⟩, set [int 2, int 1]), (text "a", int 3)]

theorem labelSet_isTyped : labelSet.IsTyped := by
  intro i x _ hx
  simp [labelSet, within_set, within_list, within_scalar, isCollection] at hx

theorem labelMap_isTyped : labelMap.IsTyped := by
  intro i x _ hx
  simp [labelMap, within_map, within_set, within_scalar, isCollection] at hx

theorem coerce_labels :
    (set [text "c", set [int 1, int 2], list [text "b", text "a"]]).coerce = labelSet.coerce ∧
      (map [(text "a", int 3), (text "b", set [int 1, int 2])]).coerce = labelMap.coerce := by
  constructor
  · refine (coerce_canonical labelSet_isTyped).2.2.2.2.2.1 _ _ rfl fun x => ?_
    change x ∈ [list [text "b", text "a"], set [int 1, int 2], text "c", text "c"] ↔
      x ∈ [text "c", set [int 1, int 2], list [text "b", text "a"]]
    simp only [List.mem_cons, List.not_mem_nil, or_false]
    tauto
  · refine (coerce_canonical labelMap_isTyped).2.2.2.2.2.2 _ _ rfl ?_ ?_
    · exact List.Perm.swap _ _ []
    · change [text "b", text "a"].Nodup
      simp

end WideColumn.Value

import Mathlib.Data.List.Induction
import Mathlib.Data.List.Nodup
import Mathlib.Data.List.Perm.Subperm
import WideColumn.Row.Basic

namespace WideColumn

namespace NamedValues

section Lookup

variable {α β γ : Type} {name : String} {v : α} {es : List (String × α)} {key : β → String}
  {value? : β → Option α} {xs : List β}

theorem lookup_cons (e : String × α) :
    (e :: es).lookup name = if name = e.1 then some e.2 else es.lookup name := by
  rw [List.lookup_cons]
  by_cases h : name = e.1
  · simp [h]
  · rw [if_neg h, beq_false_of_ne h]

theorem lookup_eq_some_of_forall (hmem : ∃ e ∈ es, e.1 = name)
    (hall : ∀ e ∈ es, e.1 = name → e.2 = v) : es.lookup name = some v := by
  induction es with
  | nil =>
    obtain ⟨_, hnil, -⟩ := hmem
    contradiction
  | cons e es ih =>
    rw [lookup_cons]
    by_cases h : name = e.1
    · rw [if_pos h, hall e List.mem_cons_self h.symm]
    · rw [if_neg h]
      obtain ⟨e', he', hname⟩ := hmem
      have htail : e' ∈ es := (List.mem_cons.mp he').resolve_left fun heq => h (heq ▸ hname.symm)
      exact ih ⟨e', htail, hname⟩ fun x hx => hall x (List.mem_cons_of_mem e hx)

theorem lookup_map (f : α → γ) :
    (es.map fun e => (e.1, f e.2)).lookup name = (es.lookup name).map f := by
  induction es with
  | nil => rfl
  | cons e es ih =>
    rw [List.map_cons, lookup_cons, lookup_cons, ih]
    split <;> rfl

theorem lookup_map_name {rename : String → String} :
    (es.map fun e => (rename e.1, e.2)).lookup name =
      (es.find? fun e => rename e.1 == name).map Prod.snd := by
  induction es with
  | nil => rfl
  | cons e es ih =>
    rw [List.map_cons, lookup_cons, List.find?_cons, ih]
    by_cases hname : rename e.1 = name
    · simp [hname]
    · rw [if_neg (Ne.symm hname), beq_false_of_ne hname]

theorem names_filterMap (h : ∀ x ∈ xs, (value? x).isSome = true) :
    (xs.filterMap fun x => (value? x).map fun v => (key x, v)).map Prod.fst = xs.map key := by
  induction xs with
  | nil => rfl
  | cons x xs ih =>
    obtain ⟨hx, hxs⟩ := List.forall_mem_cons.mp h
    obtain ⟨v, hv⟩ := Option.isSome_iff_exists.mp hx
    rw [List.filterMap_cons, hv]
    exact congrArg (key x :: ·) (ih hxs)

theorem lookup_filterMap (h : ∀ x ∈ xs, (value? x).isSome = true) :
    (xs.filterMap fun x => (value? x).map fun v => (key x, v)).lookup name =
      (xs.find? fun x => key x == name).bind value? := by
  induction xs with
  | nil => rfl
  | cons x xs ih =>
    obtain ⟨hx, hxs⟩ := List.forall_mem_cons.mp h
    obtain ⟨v, hv⟩ := Option.isSome_iff_exists.mp hx
    rw [List.filterMap_cons, List.find?_cons, hv]
    by_cases hname : key x = name
    · simp [hname, hv]
    · rw [Option.map_some, lookup_cons, if_neg (Ne.symm hname), beq_false_of_ne hname, ih hxs]

end Lookup

variable {name other : String} {v : Value} {es : List (String × Value)} {m : NamedValues}

theorem lookup_setEntry : (setEntry name v es).lookup other =
    if other = name then some v else es.lookup other := by
  induction es with
  | nil => rw [setEntry, lookup_cons]
  | cons e es ih =>
    rw [setEntry]
    split
    · next h =>
      rw [lookup_cons, lookup_cons, h]
      split <;> rfl
    · next h =>
      rw [lookup_cons, lookup_cons, ih]
      by_cases hother : other = e.1
      · rw [if_pos hother, if_pos hother, if_neg (hother ▸ h)]
      · rw [if_neg hother, if_neg hother]

theorem get?_set : (m.set name v).get? other = if other = name then some v else m.get? other :=
  lookup_setEntry

theorem get?_foldl_set : (es.foldl (fun m e => m.set e.1 e.2) m).get? name =
    (es.reverse.lookup name).or (m.get? name) := by
  induction es generalizing m with
  | nil => rfl
  | cons e es ih =>
    rw [List.foldl_cons, ih, get?_set, List.reverse_cons, List.lookup_append, lookup_cons]
    cases es.reverse.lookup name <;> by_cases h : name = e.1 <;> simp [h]

theorem get?_ofList : (ofList es).get? name = es.reverse.lookup name :=
  get?_foldl_set.trans Option.or_none

theorem names_set :
    (m.set name v).names = if name ∈ m.names then m.names else m.names ++ [name] :=
  names_setEntry name v m.entries

theorem mem_names_foldl_set : name ∈ (es.foldl (fun m e => m.set e.1 e.2) m).names ↔
    name ∈ m.names ∨ name ∈ es.map Prod.fst := by
  induction es generalizing m with
  | nil => simp
  | cons e es ih =>
    have hset : name ∈ (m.set e.1 e.2).names ↔ name ∈ m.names ∨ name = e.1 := by
      rw [names_set]
      split
      · next hmem => exact ⟨.inl, fun h => h.elim id fun heq => heq ▸ hmem⟩
      · rw [List.mem_append, List.mem_singleton]
    rw [List.foldl_cons, ih, hset, List.map_cons, List.mem_cons, or_assoc]

theorem names_ofList : (ofList es).names = (es.map Prod.fst).eraseDups := by
  induction es using List.reverseRecOn with
  | nil => rfl
  | append_singleton es e ih =>
    have hlast : ofList (es ++ [e]) = (ofList es).set e.1 e.2 := by
      rw [ofList, List.foldl_append]
      rfl
    have hmem : e.1 ∈ (ofList es).names ↔ e.1 ∈ es.map Prod.fst := by rw [ih, List.mem_eraseDups]
    rw [hlast, names_set, List.map_append, List.eraseDups_append]
    by_cases h : e.1 ∈ es.map Prod.fst
    · rw [if_pos (hmem.mpr h), ih]
      simp [List.removeAll, h]
    · rw [if_neg (mt hmem.mp h), ih]
      simp [List.removeAll, h, List.eraseDups_cons]

theorem setEntry_of_not_mem (h : name ∉ es.map Prod.fst) :
    setEntry name v es = es ++ [(name, v)] := by
  induction es with
  | nil => rfl
  | cons e es ih =>
    rw [List.map_cons, List.mem_cons, not_or] at h
    rw [setEntry, if_neg fun heq => h.1 heq.symm, ih h.2, List.cons_append]

theorem entries_foldl_set (h : ((m.entries ++ es).map Prod.fst).Nodup) :
    (es.foldl (fun m e => m.set e.1 e.2) m).entries = m.entries ++ es := by
  induction es generalizing m with
  | nil => exact (List.append_nil _).symm
  | cons e es ih =>
    have hfresh : e.1 ∉ m.entries.map Prod.fst := by
      rw [List.map_append, List.nodup_append] at h
      exact fun hmem => h.2.2 e.1 hmem e.1 List.mem_cons_self rfl
    have hset : (m.set e.1 e.2).entries = m.entries ++ [e] := setEntry_of_not_mem hfresh
    rw [List.foldl_cons, ih (by rwa [hset, List.append_assoc]), hset, List.append_assoc]
    rfl

theorem entries_ofList (h : (es.map Prod.fst).Nodup) : (ofList es).entries = es :=
  entries_foldl_set h

theorem length_ofList (h : (es.map Prod.fst).Nodup) : (ofList es).length = es.length :=
  congrArg List.length (entries_ofList h)

theorem length_ofList_iff : (ofList es).length = es.length ↔ (es.map Prod.fst).Nodup := by
  constructor
  · intro h
    have hsub : (ofList es).names.Subperm (es.map Prod.fst) := by
      apply (ofList es).nodup.subperm
      intro name hname
      rwa [← names, names_ofList, List.mem_eraseDups] at hname
    have hlength : (es.map Prod.fst).length ≤ (ofList es).names.length := by
      rw [names, List.length_map, List.length_map]
      exact Nat.le_of_eq h.symm
    exact (hsub.perm_of_length_le hlength).nodup_iff.mp (ofList es).nodup
  · exact length_ofList

theorem mem_names_of_get? (h : m.get? name = some v) : name ∈ m.names := by
  obtain ⟨before, after, hentries, -⟩ := List.lookup_eq_some_iff.mp h
  rw [names, hentries, List.map_append]
  exact List.mem_append_right _ List.mem_cons_self

theorem get?_of_mem {e : String × Value} (h : (es.map Prod.fst).Nodup) (he : e ∈ es) :
    (ofList es).get? e.1 = some e.2 := by
  rw [get?, entries_ofList h]
  apply lookup_eq_some_of_forall ⟨e, he, rfl⟩
  intro e' he' hname
  rw [List.inj_on_of_nodup_map h he' he hname]

end NamedValues

end WideColumn

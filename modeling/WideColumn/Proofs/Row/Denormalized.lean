import WideColumn.Proofs.Naming.Segments
import WideColumn.Proofs.Row.Lookup

namespace WideColumn.RowMap

open CamelCase

variable {es : List (String × Value)}

def ofFields (es : List (String × Value)) : RowMap :=
  NamedValues.ofList (es.map fun e => (SnakeCase.normalize e.1, e.2))

theorem nodup_columns (hfields : ∀ e ∈ es, isFieldName e.1 = true)
    (h : (es.map Prod.fst).Nodup) :
    ((es.map fun e => (SnakeCase.normalize e.1, e.2)).map Prod.fst).Nodup := by
  rw [List.map_map]
  apply (List.Nodup.of_map _ h).map_on
  intro e he e' he' hcolumn
  have hname := normalize_injective (hfields e he) (hfields e' he') hcolumn
  exact List.inj_on_of_nodup_map h he he' hname

theorem denormalize_ofFields (hfields : ∀ e ∈ es, isFieldName e.1 = true)
    (h : (es.map Prod.fst).Nodup) :
    (ofFields es).denormalize .snakeCase =
      NamedValues.ofList (es.map fun e => (restored e.1, e.2)) := by
  have hentries := NamedValues.entries_ofList (nodup_columns hfields h)
  rw [denormalize, NamedValues.mapNames, ofFields, hentries, List.map_map]
  apply congrArg NamedValues.ofList
  apply List.map_congr_left
  intro e he
  exact congrArg (·, e.2) (denormalize_normalize (hfields e he))

theorem map_restored (h : ∀ e ∈ es, restored e.1 = e.1) :
    es.map (fun e => (restored e.1, e.2)) = es := by
  refine (List.map_congr_left fun e he => ?_).trans (List.map_id es)
  exact congrArg (·, e.2) (h e he)

theorem restored_eq_of_get? (hfields : ∀ e ∈ es, isFieldName e.1 = true) {name : String}
    {v : Value}
    (h : (NamedValues.ofList (es.map fun e => (restored e.1, e.2))).get? name = some v) :
    restored name = name := by
  have hmem := NamedValues.mem_names_of_get? h
  rw [NamedValues.names_ofList, List.mem_eraseDups, List.map_map] at hmem
  obtain ⟨e, he, rfl⟩ := List.mem_map.mp hmem
  exact restored_restored (hfields e he)

/-- Denormalized by snake case, the values of pairwise different fields are all there under their
fields' names again exactly if no digit stands before a lowercase letter in any of these names. -/
theorem denormalize_restores_iff (hfields : ∀ e ∈ es, isFieldName e.1 = true)
    (hnames : (es.map Prod.fst).Nodup) :
    (ofFields es).entries = (es.map fun e => (SnakeCase.normalize e.1, e.2)) ∧
      (ofFields es).denormalize .snakeCase =
        NamedValues.ofList (es.map fun e => (restored e.1, e.2)) ∧
      (∀ e ∈ es, CamelCase.denormalize (SnakeCase.normalize e.1) = restored e.1 ∧
        (restored e.1 = e.1 ↔ DigitsEndWords e.1.toList)) ∧
      (((ofFields es).denormalize .snakeCase).length = es.length ↔
        (es.map fun e => restored e.1).Nodup) ∧
      ((((ofFields es).denormalize .snakeCase).length = es.length ∧
          ∀ e ∈ es, ((ofFields es).denormalize .snakeCase).get? e.1 =
            (ofFields es).get? (SnakeCase.normalize e.1)) ↔
        ∀ e ∈ es, DigitsEndWords e.1.toList) := by
  have hcolumns := nodup_columns hfields hnames
  have hback := denormalize_ofFields hfields hnames
  have hlength : ((ofFields es).denormalize .snakeCase).length = es.length ↔
      (es.map fun e => restored e.1).Nodup := by
    have hnamed : (es.map fun e => (restored e.1, e.2)).map Prod.fst =
        es.map fun e => restored e.1 := List.map_map
    rw [hback, ← hnamed, ← NamedValues.length_ofList_iff, List.length_map]
  have hvalue (e) (he : e ∈ es) : (ofFields es).get? (SnakeCase.normalize e.1) = some e.2 :=
    NamedValues.get?_of_mem hcolumns (List.mem_map_of_mem he)
  refine ⟨NamedValues.entries_ofList hcolumns, hback, fun e he =>
    ⟨denormalize_normalize (hfields e he), restored_eq_iff (hfields e he)⟩, hlength, ?_⟩
  constructor
  · rintro ⟨-, hget⟩ e he
    apply (restored_eq_iff (hfields e he)).mp
    apply restored_eq_of_get? hfields (v := e.2)
    rw [← hback, hget e he, hvalue e he]
  · intro hdigits
    have hsame := map_restored fun e he => (restored_eq_iff (hfields e he)).mpr (hdigits e he)
    rw [hback, hsame]
    refine ⟨NamedValues.length_ofList hnames, fun e he => ?_⟩
    rw [NamedValues.get?_of_mem hnames he, hvalue e he]

theorem denormalize_restores_iff_lineText :
    let es : List (String × Value) := [("line2Text", .int 1), ("address2", .int 2)]
    (∀ e ∈ es, isFieldName e.1 = true) ∧ (es.map Prod.fst).Nodup ∧
      ((ofFields es).denormalize .snakeCase).length = 2 ∧
      ∀ e ∈ es, ((ofFields es).denormalize .snakeCase).get? e.1 =
        (ofFields es).get? (SnakeCase.normalize e.1) := by
  intro es
  have hfields : ∀ e ∈ es, isFieldName e.1 = true := by decide +kernel
  have hnames : (es.map Prod.fst).Nodup := by decide +kernel
  obtain ⟨-, -, -, -, hback⟩ := denormalize_restores_iff hfields hnames
  exact ⟨hfields, hnames, hback.mpr (by decide +kernel)⟩

/-- Two fields come back as one, and the value of the first is gone. -/
theorem denormalize_loses :
    let es : List (String × Value) := [("a1b", .int 1), ("a1B", .int 2)]
    (∀ e ∈ es, isFieldName e.1 = true) ∧ (es.map Prod.fst).Nodup ∧
      (ofFields es).length = 2 ∧ ((ofFields es).denormalize .snakeCase).names = ["a1B"] ∧
      ((ofFields es).denormalize .snakeCase).length = 1 ∧
      (((ofFields es).denormalize .snakeCase).get? "a1b").isNone = true ∧
      CamelCase.denormalize (SnakeCase.normalize "a1b") = "a1B" := by
  decide +kernel

end WideColumn.RowMap

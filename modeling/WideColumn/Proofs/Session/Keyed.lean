import WideColumn.Proofs.Outcome
import WideColumn.Proofs.Session.Action
import WideColumn.Session.Delete
import WideColumn.Session.Update

namespace WideColumn

open Outcome

namespace Session

section KeyValues

variable {owner : String} {value? : String → Option Value} {keys : List String}
  {values : List Value}

theorem keyValues_eq_ok :
    keyValues owner value? keys = .ok values ↔ keys.map value? = values.map some := by
  induction keys generalizing values with
  | nil =>
    cases values with
    | nil => simp [keyValues]
    | cons v vs => simp [keyValues]
  | cons key keys ih =>
    rw [keyValues, List.map_cons]
    cases value? key with
    | none => cases values <;> simp
    | some v =>
      simp only [bind_eq_ok, pure_eq_ok]
      constructor
      · rintro ⟨vs, hvs, rfl⟩
        rw [ih.mp hvs, List.map_cons]
      · intro h
        cases values with
        | nil => simp at h
        | cons v' vs =>
          rw [List.map_cons, List.cons.injEq, Option.some.injEq] at h
          exact ⟨vs, ih.mpr h.2, by rw [h.1]⟩

theorem keyValues_eq_error {e : SessionError} (h : keyValues owner value? keys = .error e) :
    ∃ key ∈ keys, value? key = none ∧ e = .keyMissing owner key := by
  induction keys with
  | nil => contradiction
  | cons key keys ih =>
    rw [keyValues] at h
    cases hkey : value? key with
    | none =>
      rw [hkey] at h
      exact ⟨key, List.mem_cons_self, hkey, (Except.error.inj h).symm⟩
    | some v =>
      rw [hkey] at h
      cases hrest : keyValues owner value? keys with
      | ok vs => simp [hrest, bind, Except.bind, pure, Except.pure] at h
      | error e' =>
        rw [hrest] at h
        obtain ⟨key', hmem, hnone, heq⟩ := ih (hrest.trans h)
        exact ⟨key', List.mem_cons_of_mem key hmem, hnone, heq⟩

end KeyValues

end Session

namespace Change

def statement (change : Change) (resource : String) (keys : List String)
    (key : Except SessionError (List Value))
    (assigned : Except CatalogError (List (String × Value))) : Except Error Statement := do
  let key ← key.mapError ToError.toError
  match change with
  | .update =>
    let assigned ← assigned.mapError ToError.toError
    let template ← (Session.buildUpdate resource assigned keys).mapError ToError.toError
    (template.bind (assigned.map Prod.snd) key).mapError ToError.toError
  | .delete =>
    let template ← (DeleteTemplate.build resource keys).mapError ToError.toError
    (template.bind key).mapError ToError.toError

def Asks (change : Change) (resource : String) (keys : List String)
    (value? : String → Option Value) (assigned : Except CatalogError (List (String × Value)))
    (statement : Statement) : Prop :=
  keys ≠ [] ∧ ∃ key, keys.map value? = key.map some ∧
    match change with
    | .update => ∃ columns, assigned = .ok columns ∧ columns ≠ [] ∧
        statement = .update resource columns (keys.zip key)
    | .delete => statement = .delete resource (keys.zip key)

section Statements

variable {change : Change} {resource owner : String} {keys : List String} {key : List Value}
  {value? : String → Option Value} {st : Statement}

theorem zip_fst_snd (entries : List (String × Value)) :
    (entries.map Prod.fst).zip (entries.map Prod.snd) = entries := by
  rw [← List.unzip_fst, ← List.unzip_snd, List.zip_unzip]

theorem bind_delete_eq_ok (resource : String) (st : Statement) (hkey : key.length = keys.length) :
    (DeleteTemplate.build resource keys >>= fun template => template.bind key) = .ok st ↔
      keys ≠ [] ∧ st = .delete resource (keys.zip key) := by
  by_cases hkeys : keys = []
  · simp [DeleteTemplate.build, hkeys, bind, Except.bind]
  · simp [DeleteTemplate.build, DeleteTemplate.bind, hkeys, hkey, bind, Except.bind,
      eq_comm (a := st)]

theorem bind_update_eq_ok (resource : String) (columns : List (String × Value)) (st : Statement)
    (hkey : key.length = keys.length) :
    (Session.buildUpdate resource columns keys >>= fun template =>
        template.bind (columns.map Prod.snd) key) = .ok st ↔
      columns ≠ [] ∧ keys ≠ [] ∧ st = .update resource columns (keys.zip key) := by
  by_cases hcolumns : columns = []
  · simp [Session.buildUpdate, UpdateTemplate.build, hcolumns, bind, Except.bind]
  by_cases hkeys : keys = []
  · simp [Session.buildUpdate, UpdateTemplate.build, hcolumns, hkeys, bind, Except.bind]
  · simp [Session.buildUpdate, UpdateTemplate.build, UpdateTemplate.bind, hcolumns, hkeys, hkey,
      bind, Except.bind, zip_fst_snd, eq_comm (a := st)]

theorem statement_eq_ok {assigned : Except CatalogError (List (String × Value))} :
    change.statement resource keys (Session.keyValues owner value? keys) assigned = .ok st ↔
      change.Asks resource keys value? assigned st := by
  rw [statement, bind_eq_ok, Asks, ← exists_and_left]
  apply exists_congr
  intro key
  rw [mapError_eq_ok, Session.keyValues_eq_ok, and_left_comm]
  apply and_congr_right
  intro hkey
  have hlength : key.length = keys.length := by
    simpa using (congrArg List.length hkey).symm
  cases change with
  | delete =>
    have hbind := bind_delete_eq_ok resource st hlength
    simp only [bind_eq_ok, mapError_eq_ok] at hbind ⊢
    exact hbind
  | update =>
    have hbind (columns : List (String × Value)) :=
      bind_update_eq_ok resource columns st hlength
    simp only [bind_eq_ok, mapError_eq_ok] at hbind ⊢
    simp only [hbind]
    constructor
    · rintro ⟨columns, hassigned, hcolumns, hkeys, rfl⟩
      exact ⟨hkeys, columns, hassigned, hcolumns, rfl⟩
    · rintro ⟨hkeys, columns, hassigned, hcolumns, rfl⟩
      exact ⟨columns, hassigned, hcolumns, hkeys, rfl⟩

end Statements

end Change

end WideColumn

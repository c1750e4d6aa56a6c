import WideColumn.Proofs.Session.Action
import WideColumn.Proofs.Session.Keyed

/-!
Updates and deletes as one thing. A change settles its key columns and shared assignments, then
attempts one statement for each element of a batch: the items given, or else the rows of a query.
-/

namespace WideColumn

open Outcome

namespace Session

variable {ω ρ α : Type}

structure Opening where
  keys : List String
  shared : List (String × Value)

def opening (s : Session ω) (change : Change) (resource : String) (values : NamedValues) :
    Action ω Opening := do
  let keys ← Action.ofExcept (s.catalog.rowKeys resource)
  match change with
  | .update =>
    let explicit ← Action.ofExcept (s.explicitAssignments resource keys values)
    let _ ← s.sharedTemplate resource values explicit keys
    return ⟨keys, explicit⟩
  | .delete =>
    let template ← Action.ofExcept (DeleteTemplate.build resource keys)
    s.prepare template.cql
    return ⟨keys, []⟩

def attempt (s : Session ω) (statement : Except Error Statement) (result : α × List Event) :
    Action ω α := do
  let _ ← s.execute (← Action.ofExcept statement)
  Action.reporting result

def runChange (s : Session ω) (change : Change) (subject : Subject α) (mutation : Mutation α)
    (params : List Value) : Action ω (ResultSet α) :=
  match change with
  | .update => s.runUpdate subject mutation params
  | .delete => s.runDelete subject mutation params

def itemAssignments (s : Session ω) (subject : Subject α) (values : NamedValues)
    (opening : Opening) (item : α) : Except CatalogError (List (String × Value)) :=
  if values.isEmpty then s.derivedAssignments subject opening.keys item else .ok opening.shared

def itemStatement (s : Session ω) (change : Change) (subject : Subject α) (values : NamedValues)
    (opening : Opening) (item : α) : Except Error Statement :=
  change.statement subject.resource opening.keys (itemKeys subject item opening.keys)
    (s.itemAssignments subject values opening item)

def rowStatement (change : Change) (resource : String) (opening : Opening) (row : RowMap) :
    Except Error Statement :=
  change.statement resource opening.keys (rowKeys row opening.keys) (.ok opening.shared)

def itemResult (change : Change) (subject : Subject α) (values : NamedValues)
    (opening : Opening) (item : α) : α × List Event :=
  match change with
  | .update => if values.isEmpty then (item, []) else subject.assign item opening.shared
  | .delete => (item, [])

def rowResult (change : Change) (subject : Subject α) (opening : Opening) (row : RowMap) :
    α × List Event :=
  match change with
  | .update => subject.ofRow (opening.shared.foldl (fun row e => row.set e.1 e.2) row)
  | .delete => subject.ofRow row

section Attempts

open WideColumn.Action (ofExcept_ok ofExcept_bind ofExcept_mapError reporting_nil)

variable (s : Session ω) (subject : Subject α) {resource : String} {keys : List String}
  {assigned : List (String × Value)}

theorem deleteKeyed_eq {template : DeleteTemplate}
    (h : DeleteTemplate.build resource keys = .ok template)
    (key : Except SessionError (List Value))
    (assigned : Except CatalogError (List (String × Value))) (result : α × List Event) :
    (do s.deleteKeyed template key; Action.reporting result) =
      s.attempt (Change.delete.statement resource keys key assigned) result := by
  simp only [deleteKeyed, attempt, Change.statement, h, ofExcept_bind, ofExcept_mapError,
    ofExcept_ok, bind_assoc, pure_bind]

theorem updateKeyed_eq {template : UpdateTemplate}
    (h : buildUpdate resource assigned keys = .ok template)
    (key : Except SessionError (List Value)) (result : α × List Event) :
    (do
      let key ← Action.ofExcept key
      let _ ← s.execute (← bindUpdate template assigned key)
      Action.reporting result) =
      s.attempt (Change.update.statement resource keys key (.ok assigned)) result := by
  simp only [attempt, bindUpdate, Change.statement, ofExcept_bind, ofExcept_mapError, ofExcept_ok,
    bind_assoc, pure_bind, h]

theorem updateOwn_eq (item : α) :
    s.updateOwn subject keys item =
      s.attempt (Change.update.statement subject.resource keys (itemKeys subject item keys)
        (s.derivedAssignments subject keys item)) (item, []) := by
  simp only [updateOwn, attempt, bindUpdate, Change.statement, ofExcept_bind, ofExcept_mapError,
    bind_assoc, reporting_nil]

variable {values : NamedValues}

theorem deleteItem_eq {template : DeleteTemplate}
    (h : DeleteTemplate.build subject.resource keys = .ok template) :
    s.deleteItem subject template keys = fun item =>
      s.attempt (s.itemStatement .delete subject values ⟨keys, []⟩ item)
        (itemResult .delete subject values ⟨keys, []⟩ item) := by
  funext item
  rw [itemStatement, ← deleteKeyed_eq s h, itemResult, reporting_nil]
  rfl

theorem deleteRow_eq {template : DeleteTemplate}
    (h : DeleteTemplate.build subject.resource keys = .ok template) :
    s.deleteRow subject template keys = fun row =>
      s.attempt (rowStatement .delete subject.resource ⟨keys, []⟩ row)
        (rowResult .delete subject ⟨keys, []⟩ row) := by
  funext row
  rw [rowStatement, ← deleteKeyed_eq s h]
  rfl

theorem updateItem_eq_own (h : values.isEmpty = true) :
    s.updateItem subject none assigned keys = fun item =>
      s.attempt (s.itemStatement .update subject values ⟨keys, assigned⟩ item)
        (itemResult .update subject values ⟨keys, assigned⟩ item) := by
  funext item
  rw [itemStatement, itemAssignments, itemResult, if_pos h, if_pos h, ← updateOwn_eq]
  rfl

theorem updateItem_eq_shared {template : UpdateTemplate} (h : values.isEmpty = false)
    (htemplate : buildUpdate subject.resource assigned keys = .ok template) :
    s.updateItem subject (some template) assigned keys = fun item =>
      s.attempt (s.itemStatement .update subject values ⟨keys, assigned⟩ item)
        (itemResult .update subject values ⟨keys, assigned⟩ item) := by
  funext item
  rw [itemStatement, itemAssignments, itemResult, h, if_neg Bool.false_ne_true,
    if_neg Bool.false_ne_true, ← updateKeyed_eq s htemplate]
  rfl

theorem updateRow_eq {template : UpdateTemplate}
    (htemplate : buildUpdate subject.resource assigned keys = .ok template) :
    s.updateRow subject template assigned keys = fun row =>
      s.attempt (rowStatement .update subject.resource ⟨keys, assigned⟩ row)
        (rowResult .update subject ⟨keys, assigned⟩ row) := by
  funext row
  rw [rowStatement, ← updateKeyed_eq s htemplate]
  rfl

end Attempts

def changeItems (s : Session ω) (change : Change) (subject : Subject α) (values : NamedValues)
    (items : List α) (opening : Opening) : StateM (World ω) (List α) :=
  bestEffort (.skipped .item change subject.resource) (fun item =>
    s.attempt (s.itemStatement change subject values opening item)
      (itemResult change subject values opening item)) items

def changeFetched (s : Session ω) (change : Change) (subject : Subject α) (rows : List RowMap)
    (opening : Opening) : StateM (World ω) (List α) :=
  bestEffort (.skipped .row change subject.resource) (fun row =>
    s.attempt (rowStatement change subject.resource opening row)
      (rowResult change subject opening row)) rows

section Runs

open WideColumn.Action (ofExcept_ok ofExcept_error throw_bind)

variable {s : Session ω} {change : Change} {subject : Subject α} {mutation : Mutation α}
  {params : List Value}

theorem runChange_items (h : mutation.items ≠ []) :
    s.runChange change subject mutation params = (do
      let opening ← s.opening change subject.resource mutation.values
      return subject.finish
        (← s.changeItems change subject mutation.values mutation.items opening)) := by
  have hitems : mutation.items.isEmpty = false := by simpa using h
  cases change with
  | delete =>
    simp only [runChange, runDelete, opening, changeItems, hitems, bind_assoc, pure_bind,
      Bool.false_eq_true, if_false]
    apply bind_congr
    intro keys
    cases htemplate : DeleteTemplate.build subject.resource keys with
    | error e => rw [ofExcept_error, throw_bind, throw_bind]
    | ok template =>
      rw [ofExcept_ok, pure_bind, pure_bind, deleteItem_eq s subject htemplate]
  | update =>
    simp only [runChange, runUpdate, opening, changeItems, hitems, bind_assoc, pure_bind,
      Bool.false_eq_true, if_false]
    apply bind_congr
    intro keys
    apply bind_congr
    intro explicit
    rw [sharedTemplate]
    cases hvalues : mutation.values.isEmpty with
    | true =>
      simp only [if_true, pure_bind]
      rw [updateItem_eq_own s subject hvalues]
    | false =>
      simp only [Bool.false_eq_true, if_false, bind_assoc, pure_bind]
      cases htemplate : buildUpdate subject.resource explicit keys with
      | error e => rw [ofExcept_error, throw_bind, throw_bind]
      | ok template =>
        rw [ofExcept_ok, pure_bind, pure_bind, updateItem_eq_shared s subject hvalues htemplate]

theorem runChange_query {q : Query} (hitems : mutation.items = [])
    (hquery : mutation.query = some q)
    (hvalues : change = .update → mutation.values.isEmpty = false) :
    s.runChange change subject mutation params = (do
      let opening ← s.opening change subject.resource mutation.values
      let rows ← s.fetchMaps q params
      return subject.finish (← s.changeFetched change subject rows opening)) := by
  cases change with
  | delete =>
    simp only [runChange, runDelete, opening, changeFetched, hitems, hquery, bind_assoc, pure_bind,
      List.isEmpty_nil, if_true]
    apply bind_congr
    intro keys
    cases htemplate : DeleteTemplate.build subject.resource keys with
    | error e => rw [ofExcept_error, throw_bind, throw_bind]
    | ok template => rw [ofExcept_ok, pure_bind, pure_bind, deleteRow_eq s subject htemplate]
  | update =>
    simp only [runChange, runUpdate, opening, changeFetched, hitems, hquery, bind_assoc, pure_bind,
      List.isEmpty_nil, if_true]
    apply bind_congr
    intro keys
    apply bind_congr
    intro explicit
    rw [sharedTemplate, hvalues rfl]
    simp only [Bool.false_eq_true, if_false, bind_assoc, pure_bind]
    cases htemplate : buildUpdate subject.resource explicit keys with
    | error e => rw [ofExcept_error, throw_bind, throw_bind]
    | ok template => rw [ofExcept_ok, pure_bind, pure_bind, updateRow_eq s subject htemplate]

theorem runChange_query_update (hitems : mutation.items = [])
    (hvalues : mutation.values.isEmpty = true) :
    s.runChange .update subject mutation params = (do
      let _ ← s.opening .update subject.resource mutation.values
      throw (SessionError.valuesMissing subject.resource).toError) := by
  simp only [runChange, runUpdate, opening, sharedTemplate, hitems, hvalues, bind_assoc, pure_bind,
    List.isEmpty_nil, if_true]
  cases mutation.query <;> rfl

theorem prepare_emits (cql : String) : (s.prepare cql).Emits (· = .prepared cql) :=
  fun _ => ⟨[.prepared cql], rfl, fun _ => List.mem_singleton.mp⟩

theorem opening_emits {resource : String} {values : NamedValues} :
    (s.opening change resource values).Emits fun e => ∃ cql, e = .prepared cql := by
  have hprepare (cql : String) : (s.prepare cql).Emits fun e => ∃ cql, e = .prepared cql :=
    (prepare_emits cql).imp fun _ he => ⟨cql, he⟩
  refine (Action.emits_ofExcept _).bind fun keys => ?_
  cases change with
  | update =>
    refine (Action.emits_ofExcept _).bind fun explicit => ?_
    refine Action.Emits.bind ?_ fun _ => Action.emits_pure _
    rw [sharedTemplate]
    split
    · exact Action.emits_pure none
    · refine (Action.emits_ofExcept _).bind fun template => ?_
      exact (hprepare template.cql).bind fun _ => Action.emits_pure _
  | delete =>
    refine (Action.emits_ofExcept _).bind fun template => ?_
    exact (hprepare template.cql).bind fun _ => Action.emits_pure _

theorem opening_quiet {resource : String} {values : NamedValues} {r : Except Error Opening}
    {w w₁ : World ω} (h : (s.opening change resource values).outcome w = (r, w₁)) :
    w₁.statements = w.statements ∧ w₁.skips = w.skips := by
  refine opening_emits.quiet ?_ h
  rintro _ ⟨cql, rfl⟩
  exact ⟨rfl, rfl⟩

theorem buildUpdate_ne_nil {resource : String} {columns : List (String × Value)}
    {keys : List String} {template : UpdateTemplate}
    (h : buildUpdate resource columns keys = .ok template) : columns ≠ [] ∧ keys ≠ [] := by
  by_cases hcolumns : columns = []
  · simp [buildUpdate, UpdateTemplate.build, hcolumns] at h
  · by_cases hkeys : keys = []
    · simp [buildUpdate, UpdateTemplate.build, hcolumns, hkeys] at h
    · exact ⟨hcolumns, hkeys⟩

theorem deleteTemplate_ne_nil {resource : String} {keys : List String} {template : DeleteTemplate}
    (h : DeleteTemplate.build resource keys = .ok template) : keys ≠ [] := by
  rintro rfl
  contradiction

structure Opens (s : Session ω) (change : Change) (resource : String) (values : NamedValues)
    (o : Opening) : Prop where
  keys : s.catalog.rowKeys resource = .ok o.keys
  shared : change = .update → s.explicitAssignments resource o.keys values = .ok o.shared
  columns : change = .update → values.isEmpty = false → o.shared ≠ []
  keyed : change = .delete ∨ values.isEmpty = false → o.keys ≠ []

theorem Opens.keyed_of_values {resource : String} {values : NamedValues} {o : Opening}
    (h : s.Opens change resource values o) (hvalues : change = .update → values.isEmpty = false) :
    o.keys ≠ [] := by
  cases change with
  | update => exact h.keyed (.inr (hvalues rfl))
  | delete => exact h.keyed (.inl rfl)

open WideColumn.Action (outcome_bind_eq_ok outcome_ofExcept_eq_ok outcome_pure_eq_ok)

theorem opens_of_opening {resource : String} {values : NamedValues} {o : Opening} {w w₁ : World ω}
    (h : (s.opening change resource values).outcome w = (.ok o, w₁)) :
    s.Opens change resource values o := by
  obtain ⟨keys, _, hrun, hafter⟩ := outcome_bind_eq_ok.mp h
  have hkeys := (outcome_ofExcept_eq_ok.mp hrun).1
  cases change with
  | update =>
    obtain ⟨explicit, _, hrun', hafter'⟩ := outcome_bind_eq_ok.mp hafter
    have hexplicit := (outcome_ofExcept_eq_ok.mp hrun').1
    obtain ⟨shared, _, hshared, hlast⟩ := outcome_bind_eq_ok.mp hafter'
    obtain ⟨rfl, -⟩ := outcome_pure_eq_ok.mp hlast
    have hbuilt (hvalues : values.isEmpty = false) : explicit ≠ [] ∧ keys ≠ [] := by
      rw [sharedTemplate, hvalues, if_neg Bool.false_ne_true] at hshared
      obtain ⟨template, _, htemplate, -⟩ := outcome_bind_eq_ok.mp hshared
      exact buildUpdate_ne_nil (outcome_ofExcept_eq_ok.mp htemplate).1
    exact {
      keys := hkeys
      shared := fun _ => hexplicit
      columns := fun _ hvalues => (hbuilt hvalues).1
      keyed := fun h => (hbuilt (h.resolve_left nofun)).2 }
  | delete =>
    obtain ⟨template, _, hrun', hafter'⟩ := outcome_bind_eq_ok.mp hafter
    have htemplate := (outcome_ofExcept_eq_ok.mp hrun').1
    obtain ⟨_, _, -, hlast⟩ := outcome_bind_eq_ok.mp hafter'
    obtain ⟨rfl, -⟩ := outcome_pure_eq_ok.mp hlast
    exact {
      keys := hkeys
      shared := nofun
      columns := nofun
      keyed := fun _ => deleteTemplate_ne_nil htemplate }

end Runs

end Session

end WideColumn

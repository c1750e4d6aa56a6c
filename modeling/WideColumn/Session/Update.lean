import WideColumn.Session.Mutation
import WideColumn.Session.Select
import WideColumn.Statement.Template

namespace WideColumn.Session

variable {ω ρ α : Type}

def settable (catalog : Catalog) (resource : String) (keys : List String) :
    List (String × Value) → Except CatalogError (List (String × Value))
  | [] => .ok []
  | (column, value) :: rest =>
    if keys.contains column then settable catalog resource keys rest
    else do
      let found ← catalog.columnExists resource column
      let more ← settable catalog resource keys rest
      return if found then (column, value) :: more else more

def explicitAssignments (s : Session ω) (resource : String) (keys : List String)
    (values : NamedValues) : Except CatalogError (List (String × Value)) :=
  settable s.catalog resource keys (values.entries.map fun e => (s.naming.normalize e.1, e.2))

def derivedAssignments (s : Session ω) (subject : Subject α) (keys : List String) (item : α) :
    Except CatalogError (List (String × Value)) :=
  settable s.catalog subject.resource keys
    ((subject.columnValues item).filter fun e => !e.2.isNull)

def bindUpdate (template : UpdateTemplate) (assignments : List (String × Value))
    (keys : List Value) : Action ω Statement :=
  Action.ofExcept (template.bind (assignments.map Prod.snd) keys)

def buildUpdate (resource : String) (assignments : List (String × Value)) (keys : List String) :
    Except StatementError UpdateTemplate :=
  UpdateTemplate.build resource (assignments.map Prod.fst) keys

def updateRow (s : Session ω) (subject : Subject α) (template : UpdateTemplate)
    (explicit : List (String × Value)) (keys : List String) (row : RowMap) : Action ω α := do
  let key ← Action.ofExcept (rowKeys row keys)
  let _ ← s.execute (← bindUpdate template explicit key)
  Action.reporting (subject.ofRow (explicit.foldl (fun row e => row.set e.1 e.2) row))

def updateShared (s : Session ω) (subject : Subject α) (template : UpdateTemplate)
    (explicit : List (String × Value)) (keys : List String) (item : α) : Action ω α := do
  let key ← Action.ofExcept (itemKeys subject item keys)
  let _ ← s.execute (← bindUpdate template explicit key)
  Action.reporting (subject.assign item explicit)

def updateOwn (s : Session ω) (subject : Subject α) (keys : List String) (item : α) :
    Action ω α := do
  let key ← Action.ofExcept (itemKeys subject item keys)
  let derived ← Action.ofExcept (s.derivedAssignments subject keys item)
  let template ← Action.ofExcept (buildUpdate subject.resource derived keys)
  let _ ← s.execute (← bindUpdate template derived key)
  return item

def updateItem (s : Session ω) (subject : Subject α) (shared : Option UpdateTemplate)
    (explicit : List (String × Value)) (keys : List String) (item : α) : Action ω α :=
  match shared with
  | some template => s.updateShared subject template explicit keys item
  | none => s.updateOwn subject keys item

def sharedTemplate (s : Session ω) (resource : String) (values : NamedValues)
    (explicit : List (String × Value)) (keys : List String) :
    Action ω (Option UpdateTemplate) := do
  if values.isEmpty then return none
  let template ← Action.ofExcept (buildUpdate resource explicit keys)
  s.prepare template.cql
  return some template

def runUpdate (s : Session ω) (subject : Subject α) (mutation : Mutation α)
    (params : List Value) : Action ω (ResultSet α) := do
  let resource := subject.resource
  let keys ← Action.ofExcept (s.catalog.rowKeys resource)
  let explicit ← Action.ofExcept (s.explicitAssignments resource keys mutation.values)
  let shared ← s.sharedTemplate resource mutation.values explicit keys
  if mutation.items.isEmpty then
    match mutation.query, shared with
    | some q, some template =>
      let rows ← s.fetchMaps q params
      return subject.finish (← bestEffort (.skipped .row .update resource)
        (s.updateRow subject template explicit keys) rows)
    | _, _ => throw (SessionError.valuesMissing resource).toError
  else
    return subject.finish (← bestEffort (.skipped .item .update resource)
      (s.updateItem subject shared explicit keys) mutation.items)

def update (s : Session ω) (model : RecordModel ρ) (mutation : Mutation ρ)
    (params : List Value) : Action ω (ResultSet ρ) := do
  Action.ofExcept mutation.requireScope
  s.runUpdate (← s.typedSubject model) mutation params

def updateRows (s : Session ω) (mutation : Mutation RowMap) (params : List Value) :
    Action ω (ResultSet RowMap) := do
  Action.ofExcept mutation.requireScope
  s.runUpdate (← Action.ofExcept (s.untypedSubject mutation)) mutation params

end WideColumn.Session

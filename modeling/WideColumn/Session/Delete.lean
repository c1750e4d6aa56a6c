import WideColumn.Session.Mutation
import WideColumn.Session.Select
import WideColumn.Statement.Template

namespace WideColumn.Session

variable {ω ρ α : Type}

def deleteKeyed (s : Session ω) (template : DeleteTemplate)
    (key : Except SessionError (List Value)) : Action ω Unit := do
  let key ← Action.ofExcept key
  let statement ← Action.ofExcept (template.bind key)
  let _ ← s.execute statement

def deleteRow (s : Session ω) (subject : Subject α) (template : DeleteTemplate)
    (keys : List String) (row : RowMap) : Action ω α := do
  s.deleteKeyed template (rowKeys row keys)
  Action.reporting (subject.ofRow row)

def deleteItem (s : Session ω) (subject : Subject α) (template : DeleteTemplate)
    (keys : List String) (item : α) : Action ω α := do
  s.deleteKeyed template (itemKeys subject item keys)
  return item

def runDelete (s : Session ω) (subject : Subject α) (mutation : Mutation α)
    (params : List Value) : Action ω (ResultSet α) := do
  let resource := subject.resource
  let keys ← Action.ofExcept (s.catalog.rowKeys resource)
  let template ← Action.ofExcept (DeleteTemplate.build resource keys)
  s.prepare template.cql
  if mutation.items.isEmpty then
    match mutation.query with
    | none => return subject.finish []
    | some q =>
      let rows ← s.fetchMaps q params
      return subject.finish (← bestEffort (.skipped .row .delete resource)
        (s.deleteRow subject template keys) rows)
  else
    return subject.finish (← bestEffort (.skipped .item .delete resource)
      (s.deleteItem subject template keys) mutation.items)

def delete (s : Session ω) (model : RecordModel ρ) (mutation : Mutation ρ)
    (params : List Value) : Action ω (ResultSet ρ) := do
  Action.ofExcept mutation.requireScope
  s.runDelete (← s.typedSubject model) mutation params

def deleteRows (s : Session ω) (mutation : Mutation RowMap) (params : List Value) :
    Action ω (ResultSet RowMap) := do
  Action.ofExcept mutation.requireScope
  s.runDelete (← Action.ofExcept (s.untypedSubject mutation)) mutation params

end WideColumn.Session

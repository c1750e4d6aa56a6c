import WideColumn.Row.ResultSet
import WideColumn.Session.Basic
import WideColumn.Statement.Insert

namespace WideColumn.Session

variable {ω ρ : Type}

def insert (s : Session ω) (model : RecordModel ρ) (record : ρ) : Action ω (ResultSet ρ) := do
  let table ← s.table model
  let values := NamedValues.ofList (model.fieldValues record)
  let statement ← Action.ofExcept
    (Statement.buildInsert table.resource values s.catalog s.naming)
  let _ ← s.execute statement
  return .single record

def insertValues (s : Session ω) (resource : String) (values : NamedValues) :
    Action ω (ResultSet RowMap) := do
  let resource ← Action.ofExcept (s.resourceName resource)
  let statement ← Action.ofExcept (Statement.buildInsert resource values s.catalog s.naming)
  match ← s.execute statement with
  | [] => return .empty
  | rows => return .mapRows (rows.map (RowMap.ofRow s.naming))

end WideColumn.Session

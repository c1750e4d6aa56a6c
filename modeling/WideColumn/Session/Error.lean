import WideColumn.Error

namespace WideColumn

inductive SessionError where
  | resourceMissing
  | scopeMissing
  | valuesMissing (resource : String)
  | keyMissing (owner key : String)
deriving DecidableEq, Repr

namespace SessionError

def message : SessionError → String
  | resourceMissing => "resource name missing"
  | scopeMissing => "mutation needs instances or a query"
  | valuesMissing resource => s!"update of '{resource}' by query needs explicit values"
  | keyMissing owner key => s!"{owner}: no value for key column '{key}'"

def toError (e : SessionError) : Error :=
  match e with
  | keyMissing _ _ => { category := .mapping, origin := .materialize, message := e.message }
  | _ => { category := .configuration, origin := .session, message := e.message }

instance : ToError SessionError := ⟨toError⟩

end SessionError

end WideColumn

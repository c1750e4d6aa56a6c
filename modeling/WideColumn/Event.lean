import WideColumn.Record.FieldError

namespace WideColumn

inductive Change where
  | update
  | delete
deriving DecidableEq, Repr

inductive Target where
  | row
  | item
deriving DecidableEq, Repr

inductive Event where
  | fieldUnset (resource field : String) (error : FieldError)
  | skipped (target : Target) (change : Change) (resource : String) (error : Error)
  | connected (keyspace : String) (reconnect : Bool)
deriving Repr

namespace Event

def targetName : Target → String
  | .row => "row"
  | .item => "instance"

def changeName : Change → String
  | .update => "updated"
  | .delete => "deleted"

def message : Event → String
  | fieldUnset _ _ _ => "field left unset during materialization"
  | skipped target change _ _ =>
    "skipping " ++ targetName target ++ " that could not be " ++ changeName change
  | connected _ _ => "transport connected"

end Event

end WideColumn

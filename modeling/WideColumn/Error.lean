namespace WideColumn

inductive ErrorCategory where
  | configuration
  | schema
  | access
  | mapping
deriving DecidableEq, Repr

namespace ErrorCategory

def name : ErrorCategory → String
  | configuration => "configuration"
  | schema => "schema"
  | access => "access"
  | mapping => "mapping"

def ofName? (name : String) : Option ErrorCategory :=
  [configuration, schema, access, mapping].find? fun c => c.name == name

end ErrorCategory

inductive ErrorOrigin where
  | planner
  | statement
  | catalog
  | transport
  | materialize
  | session
  | config
deriving DecidableEq, Repr

namespace ErrorOrigin

def name : ErrorOrigin → String
  | planner => "planner"
  | statement => "statement"
  | catalog => "catalog"
  | transport => "transport"
  | materialize => "materialize"
  | session => "session"
  | config => "config"

def ofName? (name : String) : Option ErrorOrigin :=
  [planner, statement, catalog, transport, materialize, session, config].find? fun o =>
    o.name == name

end ErrorOrigin

inductive TransportError where
  | connect (detail : String)
  | rejected (detail : String)
  | closed
  | request (detail : String)
deriving DecidableEq, Repr

namespace TransportError

def message : TransportError → String
  | connect detail => "unable to connect: " ++ detail
  | rejected detail => "statement rejected by the store: " ++ detail
  | closed => "transport closed"
  | request detail => "request failed: " ++ detail

end TransportError

structure Error where
  category : ErrorCategory
  origin : ErrorOrigin
  message : String
  cause : Option TransportError := none
deriving DecidableEq, Repr

namespace Error

def withCause (e : Error) (cause : TransportError) : Error :=
  { e with cause := some cause }

def describe (e : Error) : String :=
  e.origin.name ++ ":" ++ e.category.name ++ ": " ++ e.message

end Error

class ToError (ε : Type) where
  toError : ε → Error

instance : ToError Error := ⟨id⟩

namespace TransportError

def toError (e : TransportError) : Error where
  category := .access
  origin := .transport
  message := "statement execution failed: " ++ e.message
  cause := some e

instance : ToError TransportError := ⟨toError⟩

end TransportError

end WideColumn

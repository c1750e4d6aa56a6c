import WideColumn.Event
import WideColumn.Record.Model
import WideColumn.Record.TypeRegistry
import WideColumn.Transport

namespace WideColumn

inductive Effect where
  | connecting
  | sent (statement : Statement)
  | prepared (cql : String)
  | logged (event : Event)
deriving Repr

structure World (ω : Type) where
  outside : ω
  models : ModelRegistry := {}
  types : TypeRegistry := {}
  held : Option (Transport ω) := none
  trace : List Effect := []

namespace World

variable {ω : Type}

def record (effect : Effect) (w : World ω) : World ω :=
  { w with trace := w.trace ++ [effect] }

def recordEvents (events : List Event) (w : World ω) : World ω :=
  { w with trace := w.trace ++ events.map .logged }

def events (w : World ω) : List Event :=
  w.trace.filterMap fun
    | .logged event => some event
    | _ => none

def statements (w : World ω) : List Statement :=
  w.trace.filterMap fun
    | .sent statement => some statement
    | _ => none

end World

/-- An operation that may fail, and whose effects stay even then. -/
abbrev Action (ω α : Type) := ExceptT Error (StateM (World ω)) α

namespace Action

variable {ω α ε : Type}

def ofExcept [ToError ε] (x : Except ε α) : Action ω α :=
  ExceptT.mk fun w => (x.mapError ToError.toError, w)

def log (event : Event) : StateM (World ω) Unit :=
  modify (World.record (.logged event))

def reporting (result : α × List Event) : Action ω α :=
  ExceptT.mk fun w => (.ok result.1, World.recordEvents result.2 w)

end Action

end WideColumn

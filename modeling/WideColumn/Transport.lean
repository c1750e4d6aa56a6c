import WideColumn.Error
import WideColumn.Row.Basic
import WideColumn.Statement.Basic

namespace WideColumn

/-- A connection to a store. The store and all else outside is a state `ω` that answers may
depend on and that requests change. -/
structure Transport (ω : Type) where
  execute : Statement → ω → Except TransportError (List Row) × ω
  prepare : String → ω → Except TransportError String × ω := fun cql outside => (.ok cql, outside)
  isClosed : ω → Bool := fun _ => false

end WideColumn

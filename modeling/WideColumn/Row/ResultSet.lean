import WideColumn.Error
import WideColumn.Row.Basic

namespace WideColumn

structure NotUnique where
  count : Nat
deriving DecidableEq, Repr

namespace NotUnique

def message (e : NotUnique) : String :=
  s!"expected at most one row, found {e.count}"

def toError (e : NotUnique) : Error where
  category := .mapping
  origin := .session
  message := e.message

instance : ToError NotUnique := ⟨toError⟩

end NotUnique

inductive ResultSet (α : Type) where
  | empty
  | single (item : α)
  | collection (items : List α)
  | mapRows (rows : List RowMap)
deriving Repr

namespace ResultSet

variable {α : Type}

def shaped : List α → ResultSet α
  | [] => empty
  | [item] => single item
  | items => collection items

def length : ResultSet α → Nat
  | empty => 0
  | single _ => 1
  | collection items => items.length
  | mapRows rows => rows.length

def isEmpty (r : ResultSet α) : Bool :=
  r.length == 0

def items : ResultSet α → List α
  | empty | mapRows _ => []
  | single item => [item]
  | collection items => items

def rows : ResultSet α → List RowMap
  | mapRows rows => rows
  | empty | single _ | collection _ => []

def one? (r : ResultSet α) : Except NotUnique (Option α) :=
  if 1 < r.length then .error ⟨r.length⟩ else .ok r.items.getLast?

end ResultSet

end WideColumn

import WideColumn.Materialize
import WideColumn.Row.ResultSet

namespace WideColumn

structure Subject (α : Type) where
  resource : String
  keyValue? : α → String → Option Value
  columnValues : α → List (String × Value)
  ofRow : RowMap → α × List Event
  assign : α → List (String × Value) → α × List Event
  finish : List α → ResultSet α

namespace Subject

variable {ρ : Type}

def nonNull (v : Option Value) : Option Value :=
  v.filter fun v => !v.isNull

def typed (table : ColumnTable ρ) (m : Materializer) : Subject ρ where
  resource := table.resource
  keyValue? record column := nonNull ((table.field? column).map fun f => f.get record)
  columnValues record := table.columns.map fun e => (e.1, e.2.get record)
  ofRow map := m.record table map.entries
  assign record columns := m.assign table record columns
  finish := .collection

def entryOf? (naming : Naming) (map : RowMap) (column : String) : Option (String × Value) :=
  map.entries.find? fun e => naming.normalize e.1 == column

def assignEntry (naming : Naming) (map : RowMap) (column : String × Value) : RowMap :=
  match entryOf? naming map column.1 with
  | some e => map.set e.1 column.2
  | none => map.set column.1 column.2

def untyped (resource : String) (naming : Naming) : Subject RowMap where
  resource
  keyValue? map column := nonNull ((entryOf? naming map column).map Prod.snd)
  columnValues map := map.entries.map fun e => (naming.normalize e.1, e.2)
  ofRow map := (map, [])
  assign map columns := (columns.foldl (assignEntry naming) map, [])
  finish := .mapRows

end Subject

end WideColumn

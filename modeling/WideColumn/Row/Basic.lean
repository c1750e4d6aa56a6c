import WideColumn.Naming
import WideColumn.Query.Basic
import WideColumn.Row.NamedValues

namespace WideColumn

structure Row where
  columns : List (String × Value) := []
deriving Repr

namespace Row

def get? (row : Row) (column : String) : Option Value :=
  row.columns.lookup column

def length (row : Row) : Nat :=
  row.columns.length

def isEmpty (row : Row) : Bool :=
  row.columns.isEmpty

end Row

abbrev RowMap := NamedValues

namespace RowMap

def ofRow (naming : Naming) (row : Row) : RowMap :=
  NamedValues.ofList (row.columns.map fun e => (naming.normalize e.1, e.2))

def denormalize (naming : Naming) (map : RowMap) : RowMap :=
  map.mapNames naming.denormalize

def resultName (naming : Naming) (field : ReturnField) : String :=
  naming.normalize (field.asName.getD field.name)

def project (naming : Naming) (map : RowMap) (fields : List ReturnField) : RowMap :=
  NamedValues.ofList (fields.filterMap fun field =>
    (map.get? (naming.normalize field.name)).map fun v => (resultName naming field, v))

end RowMap

end WideColumn

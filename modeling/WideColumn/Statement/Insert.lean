import WideColumn.Catalog.Basic
import WideColumn.Naming
import WideColumn.Row.NamedValues
import WideColumn.Statement.Basic
import WideColumn.Statement.Error

namespace WideColumn.Statement

def insertColumns (catalog : Catalog) (naming : Naming) (resource : String) :
    List (String × Value) → Except CatalogError (List (String × Value))
  | [] => .ok []
  | (name, value) :: rest =>
    if value.isNull then insertColumns catalog naming resource rest
    else do
      let column := naming.normalize name
      let found ← catalog.columnExists resource column
      let columns ← insertColumns catalog naming resource rest
      return if found then (column, value) :: columns else columns

/-- Inserts a row unless its key exists. A null is not written, and one column at least is. -/
def buildInsert (resource : String) (values : NamedValues) (catalog : Catalog) (naming : Naming) :
    Except Error Statement := do
  let columns ← (insertColumns catalog naming resource values.entries).mapError CatalogError.toError
  if columns.isEmpty then throw (StatementError.nothingToInsert resource).toError
  return .insert resource columns

end WideColumn.Statement

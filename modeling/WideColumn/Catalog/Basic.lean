import WideColumn.Error

namespace WideColumn

inductive ColumnType where
  | ascii
  | bigint
  | blob
  | boolean
  | double
  | int
  | text
  | timestamp
  | uuid
  | list (item : ColumnType)
  | set (item : ColumnType)
  | map (key value : ColumnType)
deriving DecidableEq, Repr

namespace ColumnType

def isCollection : ColumnType → Bool
  | list _ | set _ | map _ _ => true
  | _ => false

def name : ColumnType → String
  | ascii => "ascii"
  | bigint => "bigint"
  | blob => "blob"
  | boolean => "boolean"
  | double => "double"
  | int => "int"
  | text => "text"
  | timestamp => "timestamp"
  | uuid => "uuid"
  | list item => "list<" ++ item.name ++ ">"
  | set item => "set<" ++ item.name ++ ">"
  | map key value => "map<" ++ key.name ++ ", " ++ value.name ++ ">"

def scalarOfName? (name : String) : Option ColumnType :=
  [ascii, bigint, blob, boolean, double, int, text, timestamp, uuid].find? fun t => t.name == name

end ColumnType

inductive CatalogError where
  | resourceNotFound (resource : String)
  | columnNotFound (resource column : String)
deriving DecidableEq, Repr

namespace CatalogError

def message : CatalogError → String
  | resourceNotFound resource => "resource not found: " ++ resource
  | columnNotFound resource column => "column not found: " ++ resource ++ "." ++ column

def toError (e : CatalogError) : Error where
  category := .schema
  origin := .catalog
  message := e.message

instance : ToError CatalogError := ⟨toError⟩

end CatalogError

/-- The schema of one keyspace. Resource and column names are normalized. -/
structure Catalog where
  columnExists (resource column : String) : Except CatalogError Bool
  partitionKeys (resource : String) : Except CatalogError (List String)
  clusteringKeys (resource : String) : Except CatalogError (List String)
  indexedColumns (resource : String) : Except CatalogError (List String)
  columnType (resource column : String) : Except CatalogError ColumnType

def appendMissing (columns : List String) : List String → List String
  | [] => columns
  | c :: cs => appendMissing (if columns.contains c then columns else columns ++ [c]) cs

namespace Catalog

def rowKeys (catalog : Catalog) (resource : String) : Except CatalogError (List String) := do
  let partition ← catalog.partitionKeys resource
  return partition ++ (← catalog.clusteringKeys resource)

def pushdownKeys (catalog : Catalog) (resource : String) : Except CatalogError (List String) := do
  let keys ← catalog.rowKeys resource
  return appendMissing keys (← catalog.indexedColumns resource)

end Catalog

end WideColumn

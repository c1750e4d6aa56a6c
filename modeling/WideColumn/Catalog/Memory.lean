import WideColumn.Catalog.Basic
import WideColumn.Text.Blank

namespace WideColumn

namespace IndexTarget

def unwrap? (wrapper : String) (target : List Char) : Option (List Char) :=
  let opening := wrapper.toList ++ ['(']
  let rest := target.drop opening.length
  if opening.isPrefixOf target && rest.getLast? == some ')' then some rest.dropLast else none

/-- The column that an index target covers: a bare column, or one wrapped as `values(c)`,
`keys(c)`, `entries(c)` or `full(c)`. -/
def column (target : String) : String :=
  let trimmed := Text.trimBlank target
  match ["values", "keys", "entries", "full"].findSome? (unwrap? · trimmed.toList) with
  | some inner => Text.trimBlank (String.ofList inner)
  | none => trimmed

end IndexTarget

/-- The description of one table. Its keys are columns of it; a column may be declared twice, and
then the first type counts. -/
structure TableSchema where
  name : String
  columns : List (String × ColumnType) := []
  partitionKeys : List String := []
  clusteringKeys : List String := []
  indexes : List String := []
  keys_declared : ∀ k ∈ partitionKeys ++ clusteringKeys, k ∈ columns.map Prod.fst := by simp
deriving Repr

namespace TableSchema

def withColumn (t : TableSchema) (column : String) (type : ColumnType) : TableSchema :=
  { t with
    columns := t.columns ++ [(column, type)]
    keys_declared := fun k hk => by
      rw [List.map_append]
      exact List.mem_append_left _ (t.keys_declared k hk) }

def withPartitionKey (t : TableSchema) (column : String) (type : ColumnType) : TableSchema :=
  { t.withColumn column type with
    partitionKeys := t.partitionKeys ++ [column]
    keys_declared := fun k hk => by
      have declared := t.keys_declared k
      grind [withColumn] }

def withClusteringKey (t : TableSchema) (column : String) (type : ColumnType) : TableSchema :=
  { t.withColumn column type with
    clusteringKeys := t.clusteringKeys ++ [column]
    keys_declared := fun k hk => by
      have declared := t.keys_declared k
      grind [withColumn] }

def withIndex (t : TableSchema) (target : String) : TableSchema :=
  { t with indexes := t.indexes ++ [IndexTarget.column target] }

def columnType? (t : TableSchema) (column : String) : Option ColumnType :=
  t.columns.lookup column

end TableSchema

structure MemoryCatalog where
  tables : List TableSchema := []
deriving Repr

namespace MemoryCatalog

/-- A table hides an earlier one of its name. -/
def insert (m : MemoryCatalog) (t : TableSchema) : MemoryCatalog :=
  ⟨t :: m.tables⟩

def ofTables (tables : List TableSchema) : MemoryCatalog :=
  tables.foldl insert ⟨[]⟩

def table (m : MemoryCatalog) (resource : String) : Except CatalogError TableSchema :=
  match m.tables.find? fun t => t.name == resource with
  | some t => .ok t
  | none => .error (.resourceNotFound resource)

def toCatalog (m : MemoryCatalog) : Catalog where
  columnExists resource column := do return ((← m.table resource).columnType? column).isSome
  partitionKeys resource := do return (← m.table resource).partitionKeys
  clusteringKeys resource := do return (← m.table resource).clusteringKeys
  indexedColumns resource := do return (← m.table resource).indexes
  columnType resource column := do
    match (← m.table resource).columnType? column with
    | some type => return type
    | none => throw (.columnNotFound resource column)

end MemoryCatalog

end WideColumn

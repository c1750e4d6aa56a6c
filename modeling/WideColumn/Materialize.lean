import WideColumn.Event
import WideColumn.Query.Matches
import WideColumn.Record.Model
import WideColumn.Record.TypeRegistry
import WideColumn.Row.Basic

namespace WideColumn

structure Materializer where
  naming : Naming
  types : TypeRegistry

namespace Materializer

def lift (types : TypeRegistry) (field : String) : FieldKind → Value → Except FieldError Value
  | .scalar, v => .ok v
  | .enum model, .text label | .enum model, .enum ⟨label, _⟩ =>
    if model.contains label then .ok (.enum ⟨label, some model.path⟩)
    else .error (.unknownVariant field model.path label)
  | .enum _, v => .error (.typeMismatch field "enum label" v)
  | .typeName, .type t => .ok (.type t)
  | .typeName, .text name =>
    match types.resolve? name with
    | some t => .ok (.type t)
    | none => .error (.unresolvedType field name)
  | .typeName, v => .error (.typeMismatch field "type name" v)

variable {ρ : Type}

def setLifted (m : Materializer) (field : FieldModel ρ) (v : Value) (record : ρ) :
    Except FieldError ρ := do
  field.set (← lift m.types field.name field.kind v) record

/-- Assigns one column. A null and a column without a field change nothing; a failure leaves the
record as it was and is reported. -/
def assignColumn (m : Materializer) (table : ColumnTable ρ) (record : ρ)
    (column : String × Value) : ρ × List Event :=
  if column.2.isNull then (record, [])
  else
    match table.field? (m.naming.normalize column.1) with
    | none => (record, [])
    | some field =>
      match m.setLifted field column.2 record with
      | .ok changed => (changed, [])
      | .error e => (record, [.fieldUnset table.resource field.name e])

def assign (m : Materializer) (table : ColumnTable ρ) (record : ρ) :
    List (String × Value) → ρ × List Event
  | [] => (record, [])
  | column :: columns =>
    let (changed, events) := m.assignColumn table record column
    let (result, more) := m.assign table changed columns
    (result, events ++ more)

def record (m : Materializer) (table : ColumnTable ρ) (columns : List (String × Value)) :
    ρ × List Event :=
  m.assign table table.model.blank columns

def records (m : Materializer) (table : ColumnTable ρ) : List Row → List ρ × List Event
  | [] => ([], [])
  | row :: rows =>
    let (record, events) := m.record table row.columns
    let (records, more) := m.records table rows
    (record :: records, events ++ more)

end Materializer

namespace FieldSource

variable {ρ : Type}

def ofRow (naming : Naming) (row : Row) : FieldSource :=
  fun field => row.get? (naming.normalize field)

def ofMap (naming : Naming) (map : RowMap) : FieldSource :=
  fun field => map.get? (naming.normalize field)

def ofRecord (naming : Naming) (table : ColumnTable ρ) (record : ρ) : FieldSource :=
  fun field => (table.field? (naming.normalize field)).map fun f => f.get record

end FieldSource

namespace Predicate

variable {ρ : Type}

mutual

def checkFields (naming : Naming) (table : ColumnTable ρ) : Predicate → Except FieldError Unit
  | test t =>
    match table.field? (naming.normalize t.field) with
    | some _ => .ok ()
    | none => .error (.unknownField t.field table.model.resource)
  | all parts | any parts => checkFieldsOf naming table parts

def checkFieldsOf (naming : Naming) (table : ColumnTable ρ) :
    List Predicate → Except FieldError Unit
  | [] => .ok ()
  | p :: ps => do
    checkFields naming table p
    checkFieldsOf naming table ps

end

end Predicate

end WideColumn

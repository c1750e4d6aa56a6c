import WideColumn.Naming
import WideColumn.Record.EnumType

namespace WideColumn

inductive FieldKind where
  | scalar
  | enum (model : EnumModel)
  | typeName
deriving Repr

structure FieldModel (ρ : Type) where
  name : String
  kind : FieldKind
  get : ρ → Value
  set : Value → ρ → Except FieldError ρ

structure RecordModel (ρ : Type) where
  typeName : String
  resource : String
  blank : ρ
  fields : List (FieldModel ρ)

namespace RecordModel

variable {ρ : Type}

def field? (m : RecordModel ρ) (name : String) : Option (FieldModel ρ) :=
  m.fields.find? fun f => f.name == name

def setField (m : RecordModel ρ) (name : String) (v : Value) (record : ρ) :
    Except FieldError ρ :=
  match m.field? name with
  | some f => f.set v record
  | none => .error (.unknownField name m.resource)

def setFields (m : RecordModel ρ) : List (String × Value) → ρ → Except FieldError ρ
  | [], record => .ok record
  | (name, v) :: rest, record => do m.setFields rest (← m.setField name v record)

def fieldValues (m : RecordModel ρ) (record : ρ) : List (String × Value) :=
  m.fields.map fun f => (f.name, f.get record)

end RecordModel

structure ColumnNames where
  resource : String
  columns : List String
deriving DecidableEq, Repr

namespace ColumnNames

variable {ρ : Type}

def ofModel (model : RecordModel ρ) (naming : Naming) : ColumnNames :=
  ⟨naming.normalize model.resource, model.fields.map fun f => naming.normalize f.name⟩

end ColumnNames

structure ColumnTable (ρ : Type) where
  model : RecordModel ρ
  names : ColumnNames

namespace ColumnTable

variable {ρ : Type}

def build (model : RecordModel ρ) (naming : Naming) : ColumnTable ρ :=
  ⟨model, .ofModel model naming⟩

def resource (t : ColumnTable ρ) : String :=
  t.names.resource

def columns (t : ColumnTable ρ) : List (String × FieldModel ρ) :=
  t.names.columns.zip t.model.fields

/-- The field of a column. Where two fields share it the later one counts. -/
def field? (t : ColumnTable ρ) (column : String) : Option (FieldModel ρ) :=
  t.columns.reverse.lookup column

end ColumnTable

structure ModelRegistry where
  known : List (String × ColumnNames) := []
deriving Repr

namespace ModelRegistry

variable {ρ : Type}

def length (r : ModelRegistry) : Nat :=
  r.known.length

def isEmpty (r : ModelRegistry) : Bool :=
  r.known.isEmpty

def table (r : ModelRegistry) (model : RecordModel ρ) (naming : Naming) :
    ColumnTable ρ × ModelRegistry :=
  match r.known.lookup model.typeName with
  | some names => (⟨model, names⟩, r)
  | none =>
    let built := ColumnTable.build model naming
    (built, ⟨(model.typeName, built.names) :: r.known⟩)

end ModelRegistry

end WideColumn

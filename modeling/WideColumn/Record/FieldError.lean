import WideColumn.Error
import WideColumn.Value.Display

namespace WideColumn

inductive FieldError where
  | unknownVariant (field path label : String)
  | unresolvedType (field name : String)
  | typeMismatch (field expected : String) (found : Value)
  | unknownField (field resource : String)
deriving Repr

namespace FieldError

def message : FieldError → String
  | unknownVariant field path label =>
    s!"field '{field}': unknown variant '{label}' for enum {path}"
  | unresolvedType field name => s!"field '{field}': unresolvable type name '{name}'"
  | typeMismatch field expected found =>
    s!"field '{field}': expected {expected}, found {found.display}"
  | unknownField field resource => s!"field '{field}' is not part of record {resource}"

def toError (e : FieldError) : Error where
  category := .mapping
  origin := .materialize
  message := e.message

instance : ToError FieldError := ⟨toError⟩

end FieldError

end WideColumn

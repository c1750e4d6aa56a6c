import WideColumn.Record.FieldType
import WideColumn.Record.Model

namespace WideColumn.FieldModel

variable {ρ ε : Type}

def ofType (name : String) (t : FieldType) (get : ρ → t.Carrier) (put : t.Carrier → ρ → ρ)
    (kind : FieldKind := .scalar) : FieldModel ρ where
  name
  kind
  get record := t.encode (get record)
  set v record := do return put (← t.decodeField name v) record

def ofEnum (name : String) (t : EnumType ε) (get : ρ → Option ε) (put : Option ε → ρ → ρ)
    (kind : FieldKind := .enum t.model) : FieldModel ρ where
  name
  kind
  get record := ((get record).map t.encode).getD .null
  set v record := do return put (some (← t.decodeField name v)) record

end WideColumn.FieldModel

import WideColumn.Record.FieldError

namespace WideColumn

structure EnumModel where
  path : String
  labels : List String
deriving DecidableEq, Repr

namespace EnumModel

def contains (m : EnumModel) (label : String) : Bool :=
  m.labels.contains label

end EnumModel

structure EnumType (ε : Type) where
  model : EnumModel
  label : ε → String
  ofLabel? : String → Option ε

namespace EnumType

variable {ε : Type}

def encode (t : EnumType ε) (x : ε) : Value :=
  .enum ⟨t.label x, some t.model.path⟩

def decodeField (t : EnumType ε) (field : String) (v : Value) : Except FieldError ε :=
  let ofLabel (label : String) :=
    match t.ofLabel? label with
    | some x => .ok x
    | none => .error (.unknownVariant field t.model.path label)
  match v with
  | .enum e => ofLabel e.label
  | .text label => ofLabel label
  | v => .error (.typeMismatch field "enum" v)

end EnumType

end WideColumn

import WideColumn.Number.Double

namespace WideColumn

structure EnumLabel where
  label : String
  path : Option String
deriving DecidableEq, Repr

structure TypeName where
  name : String
deriving DecidableEq, Repr

namespace TypeName

instance : Ord TypeName := ⟨fun a b => compare a.name b.name⟩

instance : Std.TransOrd TypeName where
  eq_swap := Std.OrientedOrd.eq_swap (α := String)
  isLE_trans := Std.TransOrd.isLE_trans (α := String)

instance : Std.LawfulEqOrd TypeName where
  compare_self := Std.ReflOrd.compare_self (α := String)
  eq_of_compare {a b} h := by
    cases a
    cases b
    cases Std.LawfulEqOrd.eq_of_compare (α := String) h
    rfl

end TypeName

/-- A value exchanged between records, queries and the store. Enumeration labels, type names and
sets are application-side; `Value.coerce` lowers them before a value is bound. -/
inductive Value where
  | null
  | bool (b : Bool)
  | int (i : Int64)
  | double (x : Double)
  | text (s : String)
  | blob (bytes : List UInt8)
  /-- Milliseconds since the Unix epoch. -/
  | timestamp (milliseconds : Int64)
  | enum (e : EnumLabel)
  | type (t : TypeName)
  | list (items : List Value)
  | set (items : List Value)
  | map (entries : List (Value × Value))
deriving Inhabited, Repr

namespace Value

def isNull : Value → Bool
  | null => true
  | _ => false

def isCollection : Value → Bool
  | list _ | set _ | map _ => true
  | _ => false

def asText : Value → Option String
  | text s => some s
  | _ => none

def asSequence : Value → Option (List Value)
  | list items | set items => some items
  | _ => none

end Value

class ToValue (α : Type) where
  toValue : α → Value

export ToValue (toValue)

instance : ToValue Value := ⟨id⟩
instance : ToValue Bool := ⟨.bool⟩
instance : ToValue Int32 := ⟨fun i => .int i.toInt64⟩
instance : ToValue Int64 := ⟨.int⟩
instance : ToValue Double := ⟨.double⟩
instance : ToValue String := ⟨.text⟩
instance : ToValue EnumLabel := ⟨.enum⟩
instance : ToValue TypeName := ⟨.type⟩
instance {α : Type} [ToValue α] : ToValue (List α) := ⟨fun xs => .list (xs.map toValue)⟩

end WideColumn

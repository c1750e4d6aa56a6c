import WideColumn.Record.FieldError
import WideColumn.Record.Sorted

open Std (TransOrd LawfulEqOrd)

namespace WideColumn

structure OrderedType where
  Carrier : Type
  [order : Ord Carrier]
  [transitive : TransOrd Carrier]
  [lawful : LawfulEqOrd Carrier]

attribute [instance] OrderedType.order OrderedType.transitive OrderedType.lawful

inductive FieldType where
  | bool
  | int64
  | int32
  | double
  | text
  | typeName
  | option (item : FieldType)
  | list (item : FieldType)
  | set (item : FieldType)
  | map (key value : FieldType)
deriving DecidableEq, Repr

namespace FieldType

def ordered : FieldType → OrderedType
  | bool => { Carrier := Bool }
  | int64 => { Carrier := Int64 }
  | int32 => { Carrier := Int32 }
  | double => { Carrier := Double }
  | text => { Carrier := String }
  | typeName => { Carrier := TypeName }
  | option item => { Carrier := Option item.ordered.Carrier }
  | list item => { Carrier := List item.ordered.Carrier }
  | set item => { Carrier := SortedSet item.ordered.Carrier }
  | map key value => { Carrier := SortedMap key.ordered.Carrier value.ordered.Carrier }

abbrev Carrier (t : FieldType) : Type :=
  t.ordered.Carrier

def label : FieldType → String
  | bool => "bool"
  | int64 => "i64"
  | int32 => "i32"
  | double => "f64"
  | text => "text"
  | typeName => "type"
  | option item => item.label
  | list _ => "list"
  | set _ => "set"
  | map _ _ => "map"

def blank : (t : FieldType) → t.Carrier
  | bool => false
  | int64 => (0 : Int64)
  | int32 => (0 : Int32)
  | double => (⟨0⟩ : Double)
  | text => ""
  | typeName => (⟨""⟩ : TypeName)
  | option _ => none
  | list _ => []
  | set _ => ({} : SortedSet _)
  | map _ _ => ({} : SortedMap _ _)

def encode : (t : FieldType) → t.Carrier → Value
  | bool, b => .bool b
  | int64, i => .int i
  | int32, i => .int (Int32.toInt64 i)
  | double, x => .double x
  | text, s => .text s
  | typeName, t => .type t
  | option _, none => .null
  | option item, some x => item.encode x
  | list item, xs => .list (List.map item.encode xs)
  | set item, s => .set ((SortedSet.items s).map item.encode)
  | map key value, m =>
    .map ((SortedMap.entries m).map fun e => (key.encode e.1, value.encode e.2))

def decodeItems {α β : Type} (decode : α → Option β) : List α → Option (List β)
  | [] => some []
  | x :: xs => do
    let y ← decode x
    return y :: (← decodeItems decode xs)

def fitsInt32 (i : Int64) : Bool :=
  Int32.minValue.toInt ≤ i.toInt && i.toInt ≤ Int32.maxValue.toInt

/-- Reads a value of the right shape. Timestamps are integers, integers are doubles, and any
sequence is a list or a set. -/
def decode : (t : FieldType) → Value → Option t.Carrier
  | bool, .bool b => some b
  | int64, .int i => some i
  | int64, .timestamp i => some i
  | int32, .int i => if fitsInt32 i then some i.toInt32 else none
  | double, .double x => some x
  | double, .int i => some (Double.ofInt64 i)
  | text, .text s => some s
  | typeName, .type t => some t
  | option _, .null => some none
  | option item, v => (item.decode v).map some
  | list item, v => v.asSequence.bind (decodeItems item.decode)
  | set item, v => (v.asSequence.bind (decodeItems item.decode)).map SortedSet.ofList
  | map key value, .map entries =>
    (decodeItems (fun e => do return (← key.decode e.1, ← value.decode e.2)) entries).map
      SortedMap.ofList
  | _, _ => none

def decodeField (t : FieldType) (field : String) (v : Value) : Except FieldError t.Carrier :=
  match t.decode v with
  | some x => .ok x
  | none => .error (.typeMismatch field t.label v)

end FieldType

end WideColumn

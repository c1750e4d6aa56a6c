import WideColumn.Number.Shortest
import WideColumn.Value.Basic

namespace WideColumn.Value

def hexDigits (byte : UInt8) : List Char :=
  [Nat.digitChar (byte.toNat / 16), Nat.digitChar (byte.toNat % 16)]

def quoted (s : String) : String :=
  "'" ++ s ++ "'"

mutual

/-- The text of a value in rendered statements and error messages. Nothing is escaped. -/
def display : Value → String
  | null => "null"
  | bool b => if b then "true" else "false"
  | int i => toString i.toInt
  | double x => x.text
  | text s => quoted s
  | blob bytes => "0x" ++ String.ofList (bytes.flatMap hexDigits)
  | timestamp t => toString t.toInt
  | enum e => quoted e.label
  | type t => quoted t.name
  | list items => "[" ++ ", ".intercalate (displayItems items) ++ "]"
  | set items => "\x7b" ++ ", ".intercalate (displayItems items) ++ "\x7d"
  | map entries => "\x7b" ++ ", ".intercalate (displayEntries entries) ++ "\x7d"

def displayItems : List Value → List String
  | [] => []
  | v :: vs => display v :: displayItems vs

def displayEntries : List (Value × Value) → List String
  | [] => []
  | (k, v) :: es => (display k ++ ": " ++ display v) :: displayEntries es

end

end WideColumn.Value

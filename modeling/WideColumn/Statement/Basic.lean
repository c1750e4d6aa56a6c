import WideColumn.Plan.Fragment
import WideColumn.Value.Coerce
import WideColumn.Value.Display

namespace WideColumn

structure SelectItem where
  column : String
  asName : Option String
deriving DecidableEq, Repr

inductive Statement where
  | insert (table : String) (columns : List (String × Value))
  /-- No items means every column. -/
  | select (items : Option (List SelectItem)) (table : String) (conditions : List Fragment)
    (limit : Option UInt32)
  | update (table : String) (assignments keys : List (String × Value))
  | delete (table : String) (keys : List (String × Value))
  | literal (cql : String) (values : List Value)
deriving Repr

namespace Statement

def equations (columns : List String) : List String :=
  columns.map (· ++ " = ?")

def keyCondition (keys : List String) : String :=
  " AND ".intercalate (equations keys)

def insertText (table : String) (columns : List String) : String :=
  "INSERT INTO " ++ table ++ " (" ++ ", ".intercalate columns ++ ") VALUES (" ++
    placeholders columns.length ++ ") IF NOT EXISTS;"

def updateText (table : String) (assigned keys : List String) : String :=
  "UPDATE " ++ table ++ " SET " ++ ", ".intercalate (equations assigned) ++ " WHERE " ++
    keyCondition keys ++ ";"

def deleteText (table : String) (keys : List String) : String :=
  "DELETE FROM " ++ table ++ " WHERE " ++ keyCondition keys ++ ";"

def itemText (item : SelectItem) : String :=
  match item.asName with
  | some name => item.column ++ " AS " ++ name
  | none => item.column

def itemsText : Option (List SelectItem) → String
  | some items => ", ".intercalate (items.map itemText)
  | none => "*"

def whereText : List Fragment → String
  | [] => ""
  | conditions => " WHERE " ++ " AND ".intercalate (conditions.map Fragment.text)

def limitText : Option UInt32 → String
  | some limit => " LIMIT " ++ toString limit.toNat
  | none => ""

def selectText (items : Option (List SelectItem)) (table : String) (conditions : List Fragment)
    (limit : Option UInt32) : String :=
  "SELECT " ++ itemsText items ++ " FROM " ++ table ++ whereText conditions ++ limitText limit ++
    ";"

def cql : Statement → String
  | insert table columns => insertText table (columns.map Prod.fst)
  | select items table conditions limit => selectText items table conditions limit
  | update table assignments keys =>
    updateText table (assignments.map Prod.fst) (keys.map Prod.fst)
  | delete table keys => deleteText table (keys.map Prod.fst)
  | literal cql _ => cql

def operands : Statement → List Value
  | insert _ columns => columns.map Prod.snd
  | select _ _ conditions _ => conditions.flatMap Fragment.values
  | update _ assignments keys => assignments.map Prod.snd ++ keys.map Prod.snd
  | delete _ keys => keys.map Prod.snd
  | literal _ values => values

def values (s : Statement) : List Value :=
  s.operands.map Value.coerce

/-- Writes the next value at each placeholder. Placeholders beyond the last value stay. -/
def fill : List Char → List Value → List Char
  | [], _ => []
  | '?' :: cs, v :: vs => v.display.toList ++ fill cs vs
  | c :: cs, vs => c :: fill cs vs

def render (s : Statement) : String :=
  String.ofList (fill s.cql.toList s.values)

end Statement

end WideColumn

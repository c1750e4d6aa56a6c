import WideColumn.Query.Basic

namespace WideColumn

inductive Fragment where
  | compare (column : String) (op : Comparison) (value : Value)
  | contains (column : String) (value : Value)
  | oneOf (column : String) (values : List Value)
deriving Repr

def placeholders (count : Nat) : String :=
  ", ".intercalate (List.replicate count "?")

namespace Fragment

def column : Fragment → String
  | compare column _ _ | contains column _ | oneOf column _ => column

def values : Fragment → List Value
  | compare _ _ value | contains _ value => [value]
  | oneOf _ values => values

def text : Fragment → String
  | compare column op _ => column ++ " " ++ op.symbol ++ " ?"
  | contains column _ => column ++ " CONTAINS ?"
  | oneOf column values => column ++ " IN (" ++ placeholders values.length ++ ")"

end Fragment

end WideColumn

import WideColumn.Value.Basic

namespace WideColumn

inductive Comparison where
  | eq
  | gt
  | ge
  | lt
  | le
deriving DecidableEq, Repr

namespace Comparison

def symbol : Comparison → String
  | eq => "="
  | gt => ">"
  | ge => ">="
  | lt => "<"
  | le => "<="

end Comparison

/-- What a field test asks. `within` is membership in a list, or containment for a collection. -/
inductive TestKind where
  | compare (op : Comparison)
  | within
  | notEqual
  | notWithin
deriving DecidableEq, Repr

namespace TestKind

def isPushable : TestKind → Bool
  | compare _ | within => true
  | notEqual | notWithin => false

def operator : TestKind → Option String
  | compare op => some op.symbol
  | _ => none

end TestKind

inductive Operand where
  | value (v : Value)
  | parameter (index : Nat)
deriving Repr

namespace Operand

def literal {α : Type} [ToValue α] (x : α) : Operand :=
  value (toValue x)

end Operand

structure FieldTest where
  field : String
  kind : TestKind
  operand : Operand
deriving Repr

inductive Predicate where
  | test (t : FieldTest)
  | all (parts : List Predicate)
  | any (parts : List Predicate)
deriving Repr

structure ReturnField where
  name : String
  asName : Option String
deriving DecidableEq, Repr

/-- A query against one resource. The roots of `filter` are a conjunction; no return fields means
every column. -/
structure Query where
  resource : String
  filter : List Predicate := []
  fields : List ReturnField := []
  limit : Option UInt32 := none
  start : Option UInt32 := none
deriving Repr

namespace Query

def hasFilter (q : Query) : Bool :=
  !q.filter.isEmpty

end Query

end WideColumn

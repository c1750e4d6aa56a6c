import WideColumn.Query.Bind
import WideColumn.Value.Coerce

namespace WideColumn

abbrev FieldSource := String → Option Value

namespace Value

def isWithin (actual operand : Value) : Bool :=
  match actual.asSequence, operand.asSequence with
  | some items, some wanted => wanted.all fun want => items.any fun item => looseEq item want
  | some items, none => items.any fun item => looseEq item operand
  | none, some wanted => wanted.any fun want => looseEq actual want
  | none, none => looseEq actual operand

end Value

namespace Comparison

def accepts : Comparison → Ordering → Bool
  | eq, o => o == .eq
  | gt, o => o == .gt
  | ge, o => o != .lt
  | lt, o => o == .lt
  | le, o => o != .gt

/-- The verdict on two coerced values. Equality is the loose one; a range test fails between
values that have no order. -/
def holds (op : Comparison) (actual operand : Value) : Bool :=
  match op with
  | eq => actual.looseEq operand
  | op => (actual.strictCompare operand).any op.accepts

end Comparison

namespace TestKind

def holds (kind : TestKind) (actual operand : Value) : Bool :=
  match kind with
  | compare op => op.holds actual operand
  | within => actual.isWithin operand
  | notEqual => !actual.looseEq operand
  | notWithin => !actual.isWithin operand

end TestKind

namespace FieldTest

/-- Both sides are coerced first. An absent field passes no test, not even a negative one. -/
def holds (source : FieldSource) (t : FieldTest) : Except QueryError Bool :=
  match t.operand with
  | .parameter _ => .error (.parameterLeft t.field)
  | .value operand =>
    match source t.field with
    | none => .ok false
    | some actual => .ok (t.kind.holds actual.coerce operand.coerce)

end FieldTest

namespace Predicate

mutual

def holds (source : FieldSource) : Predicate → Except QueryError Bool
  | test t => t.holds source
  | all parts => allHold source parts
  | any parts => anyHold source parts

def allHold (source : FieldSource) : List Predicate → Except QueryError Bool
  | [] => .ok true
  | p :: ps => do if ← holds source p then allHold source ps else return false

def anyHold (source : FieldSource) : List Predicate → Except QueryError Bool
  | [] => .ok false
  | p :: ps => do if ← holds source p then return true else anyHold source ps

end

end Predicate

end WideColumn

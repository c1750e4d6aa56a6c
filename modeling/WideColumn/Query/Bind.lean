import WideColumn.Error
import WideColumn.Query.Basic
import WideColumn.Value.Display

namespace WideColumn

inductive QueryError where
  | parameterNotBound (index supplied : Nat)
  | parameterLeft (field : String)
  | membershipNeedsList (column : String) (operand : Value)
deriving Repr

namespace QueryError

def message : QueryError → String
  | parameterNotBound index supplied =>
    s!"query parameter {index} is not bound ({supplied} supplied)"
  | parameterLeft field => s!"residual evaluator on '{field}' has an unbound parameter"
  | membershipNeedsList column operand =>
    s!"membership test on scalar column '{column}' needs a list operand, found {operand.display}"

def toError (e : QueryError) : Error where
  category := .configuration
  origin := .planner
  message := e.message

instance : ToError QueryError := ⟨toError⟩

end QueryError

namespace Operand

def resolve (params : List Value) : Operand → Except QueryError Value
  | value v => .ok v
  | parameter index =>
    match params[index]? with
    | some v => .ok v
    | none => .error (.parameterNotBound index params.length)

end Operand

namespace FieldTest

def bind (params : List Value) (t : FieldTest) : Except QueryError FieldTest := do
  return { t with operand := .value (← t.operand.resolve params) }

end FieldTest

namespace Predicate

mutual

def bind (params : List Value) : Predicate → Except QueryError Predicate
  | test t => do return test (← t.bind params)
  | all parts => do return all (← bindAll params parts)
  | any parts => do return any (← bindAll params parts)

def bindAll (params : List Value) : List Predicate → Except QueryError (List Predicate)
  | [] => .ok []
  | p :: ps => do
    let q ← bind params p
    return q :: (← bindAll params ps)

end

end Predicate

namespace Query

def bind (q : Query) (params : List Value) : Except QueryError Query := do
  return { q with filter := ← Predicate.bindAll params q.filter }

end Query

end WideColumn

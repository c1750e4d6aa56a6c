import WideColumn.Plan.Pushdown
import WideColumn.Statement.Basic

namespace WideColumn

inductive Projection where
  | all
  | native (fields : List ReturnField)
  | deferred (fields : List ReturnField)
deriving DecidableEq, Repr

namespace Projection

def choose (fields : List ReturnField) (hasResidual : Bool) : Projection :=
  if fields.isEmpty then all else if hasResidual then deferred fields else native fields

end Projection

structure SelectPlan where
  statement : Statement
  pushdown : Pushdown
  projection : Projection
deriving Repr

namespace SelectPlan

def selectItem (naming : Naming) (field : ReturnField) : SelectItem :=
  ⟨naming.normalize field.name, field.asName.map naming.normalize⟩

def selectItems (naming : Naming) : Projection → Option (List SelectItem)
  | .native fields => some (fields.map (selectItem naming))
  | .all | .deferred _ => none

def build (q : Query) (keys : KeyLayout) (naming : Naming) (params : List Value) :
    Except QueryError SelectPlan := do
  let pushdown ← q.plan keys naming params
  let projection := Projection.choose q.fields pushdown.hasResidual
  return {
    statement := .select (selectItems naming projection) (naming.normalize q.resource)
      pushdown.fragments pushdown.nativeLimit
    pushdown
    projection }

end SelectPlan

end WideColumn

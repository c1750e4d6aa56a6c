import WideColumn.Naming
import WideColumn.Plan.Fragment
import WideColumn.Plan.KeyLayout
import WideColumn.Plan.Window
import WideColumn.Query.Bind
import WideColumn.Query.Leaves
import WideColumn.Value.Compare

namespace WideColumn

structure ColumnTests where
  column : String
  kind : TestKind
  tests : List (LeafId × Value)
  agree : Bool

namespace ColumnTests

/-- Files one more test under its column. A second kind on a column spoils it for good. -/
def add (column : String) (kind : TestKind) (id : LeafId) (value : Value) :
    List ColumnTests → List ColumnTests
  | [] => [⟨column, kind, [(id, value)], true⟩]
  | g :: gs =>
    if g.column = column then
      (if g.agree && g.kind == kind then { g with tests := g.tests ++ [(id, value)] }
      else { g with agree := false }) :: gs
    else g :: add column kind id value gs

def addLeaf (keys : KeyLayout) (naming : Naming) (groups : List ColumnTests)
    (leaf : LeafId × FieldTest) : List ColumnTests :=
  let column := naming.normalize leaf.2.field
  if leaf.2.kind.isPushable && keys.isPushdownKey column then
    match leaf.2.operand with
    | .value v => add column leaf.2.kind leaf.1 v groups
    | .parameter _ => groups
  else groups

def ofQuery (keys : KeyLayout) (naming : Naming) (q : Query) : List ColumnTests :=
  q.conjunctiveLeaves.foldl (addLeaf keys naming) []

end ColumnTests

namespace Membership

def distinctOnto (seen : List Value) : List Value → List Value
  | [] => seen
  | v :: vs =>
    if seen.any fun s => s.looseEq v then distinctOnto seen vs else distinctOnto (seen ++ [v]) vs

def distinct (values : List Value) : List Value :=
  distinctOnto [] values

def lists (column : String) : List Value → Except QueryError (List (List Value))
  | [] => .ok []
  | operand :: operands =>
    match operand.asSequence with
    | none => .error (.membershipNeedsList column operand)
    | some items => do return items :: (← lists column operands)

def common : List (List Value) → List Value
  | [] => []
  | first :: others =>
    distinct (first.filter fun item => others.all fun list => list.any fun o => item.looseEq o)

end Membership

namespace ColumnTests

/-- The fragments for one column, and the leaves that they answer. Of several equalities the first
is asked natively and answers those loosely equal to it; the others stay residual. -/
def emit (keys : KeyLayout) (g : ColumnTests) : Except QueryError (List Fragment × List LeafId) :=
  let ids := g.tests.map Prod.fst
  let operands := g.tests.map Prod.snd
  match g.kind with
  | .compare .eq =>
    match operands with
    | [] => .ok ([], [])
    | first :: _ =>
      .ok ([.compare g.column .eq first],
        (g.tests.filter fun test => first.looseEq test.2).map Prod.fst)
  | .compare op => .ok (operands.map (.compare g.column op), ids)
  | .within =>
    if keys.isCollection g.column then
      match operands.flatMap fun operand => operand.asSequence.getD [operand] with
      | [] => .ok ([], [])
      | elements => .ok (elements.map (.contains g.column), ids)
    else do
      match Membership.common (← Membership.lists g.column operands) with
      | [] => return ([], [])
      | values => return ([.oneOf g.column values], ids)
  | .notEqual | .notWithin => .ok ([], [])

def emitAll (keys : KeyLayout) :
    List ColumnTests → Except QueryError (List Fragment × List LeafId)
  | [] => .ok ([], [])
  | g :: gs =>
    if g.agree then do
      let (fragments, ids) ← emit keys g
      let (moreFragments, moreIds) ← emitAll keys gs
      return (fragments ++ moreFragments, ids ++ moreIds)
    else emitAll keys gs

end ColumnTests

structure Pushdown where
  fragments : List Fragment
  pushed : List LeafId
  residual : Query
deriving Repr

namespace Pushdown

def values (p : Pushdown) : List Value :=
  p.fragments.flatMap Fragment.values

def condition (p : Pushdown) : Option String :=
  if p.fragments.isEmpty then none else some (" AND ".intercalate (p.fragments.map Fragment.text))

def hasResidual (p : Pushdown) : Bool :=
  p.residual.hasFilter

def nativeLimit (p : Pushdown) : Option UInt32 :=
  Window.nativeLimit p.residual.limit p.residual.start p.hasResidual

end Pushdown

namespace Query

def plan (q : Query) (keys : KeyLayout) (naming : Naming) (params : List Value) :
    Except QueryError Pushdown := do
  let bound ← q.bind params
  let (fragments, answered) ← ColumnTests.emitAll keys (ColumnTests.ofQuery keys naming bound)
  let pushed := (bound.conjunctiveLeaves.map Prod.fst).filter answered.contains
  return ⟨fragments, pushed, bound.reduce pushed⟩

end Query

end WideColumn

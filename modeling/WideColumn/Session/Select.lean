import WideColumn.Row.ResultSet
import WideColumn.Session.Basic
import WideColumn.Statement.Select

namespace WideColumn.Session

variable {ω ρ α : Type}

def keepMatching (source : α → FieldSource) (filter : List Predicate) :
    List α → Except QueryError (List α)
  | [] => .ok []
  | item :: items => do
    let keep ← Predicate.allHold (source item) filter
    let kept ← keepMatching source filter items
    return if keep then item :: kept else kept

def runSelect (s : Session ω) (q : Query) (params : List Value) :
    Action ω (SelectPlan × List Row) := do
  let resource ← Action.ofExcept (s.resourceName q.resource)
  let keys ← Action.ofExcept (KeyLayout.resolve s.catalog resource)
  let plan ← Action.ofExcept (SelectPlan.build q keys s.naming params)
  let rows ← s.execute plan.statement
  return (plan, rows)

def keepRecords (s : Session ω) (m : Materializer) (table : ColumnTable ρ)
    (filter : List Predicate) : List Row → Action ω (List ρ)
  | [] => return []
  | row :: rows => do
    let record ← Action.reporting (m.record table row.columns)
    let keep ← Action.ofExcept
      (Predicate.allHold (.ofRecord s.naming table record) filter)
    let kept ← s.keepRecords m table filter rows
    return if keep then record :: kept else kept

def select (s : Session ω) (model : RecordModel ρ) (q : Query) (params : List Value) :
    Action ω (ResultSet ρ) := do
  let table ← s.table model
  let (plan, rows) ← s.runSelect q params
  let m ← s.materializer
  let filter := plan.pushdown.residual.filter
  match s.postEvaluation with
  | .rawRows =>
    let kept ← Action.ofExcept (keepMatching (FieldSource.ofRow s.naming) filter rows)
    let records ← Action.reporting (m.records table (Window.apply q.start q.limit kept))
    return .shaped records
  | .materialized =>
    Action.ofExcept (Predicate.checkFieldsOf s.naming table filter)
    let kept ← s.keepRecords m table filter rows
    return .shaped (Window.apply q.start q.limit kept)

def keepMaps (s : Session ω) (filter : List Predicate) (rows : List Row) :
    Except QueryError (List RowMap) :=
  match s.postEvaluation with
  | .rawRows => do
    return (← keepMatching (FieldSource.ofRow s.naming) filter rows).map (RowMap.ofRow s.naming)
  | .materialized => keepMatching (FieldSource.ofMap s.naming) filter
      (rows.map (RowMap.ofRow s.naming))

def applyProjection (s : Session ω) (projection : Projection) (maps : List RowMap) :
    List RowMap :=
  match projection with
  | .deferred fields => maps.map fun map => map.project s.naming fields
  | .all | .native _ => maps

def fetchMaps (s : Session ω) (q : Query) (params : List Value) : Action ω (List RowMap) := do
  let (plan, rows) ← s.runSelect q params
  let kept ← Action.ofExcept (s.keepMaps plan.pushdown.residual.filter rows)
  return s.applyProjection plan.projection (Window.apply q.start q.limit kept)

def selectRows (s : Session ω) (q : Query) (params : List Value) :
    Action ω (ResultSet RowMap) := do
  return .mapRows (← s.fetchMaps q params)

end WideColumn.Session

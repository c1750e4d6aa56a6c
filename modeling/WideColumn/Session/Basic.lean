import WideColumn.Catalog.Basic
import WideColumn.Materialize
import WideColumn.Session.Error
import WideColumn.Text.Blank
import WideColumn.World

namespace WideColumn

inductive PostEvaluation where
  | rawRows
  | materialized
deriving DecidableEq, Repr

structure Session (ω : Type) where
  transport : Transport ω
  catalog : Catalog
  naming : Naming
  postEvaluation : PostEvaluation := .rawRows

namespace Session

variable {ω ρ : Type}

def execute (s : Session ω) (statement : Statement) : Action ω (List Row) :=
  ExceptT.mk fun w =>
    let (reply, outside) := s.transport.execute statement w.outside
    (reply.mapError TransportError.toError, { World.record (.sent statement) w with outside })

def prepare (s : Session ω) (cql : String) : Action ω Unit :=
  ExceptT.mk fun w =>
    let (reply, outside) := s.transport.prepare cql w.outside
    ((reply.map fun _ => ()).mapError TransportError.toError,
      { World.record (.prepared cql) w with outside })

def table (s : Session ω) (model : RecordModel ρ) : Action ω (ColumnTable ρ) :=
  ExceptT.mk fun w =>
    let (table, models) := w.models.table model s.naming
    (.ok table, { w with models })

def materializer (s : Session ω) : Action ω Materializer :=
  ExceptT.mk fun w => (.ok ⟨s.naming, w.types⟩, w)

def resourceName (s : Session ω) (resource : String) : Except SessionError String :=
  let trimmed := Text.trimBlank resource
  if trimmed.isEmpty then .error .resourceMissing else .ok (s.naming.normalize trimmed)

end Session

end WideColumn

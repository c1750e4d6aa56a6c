import WideColumn.Config.Basic
import WideColumn.Session.Basic

namespace WideColumn

abbrev Connector (ω : Type) :=
  ClusterConfig → ω → Except TransportError (Transport ω) × ω

structure Layer (ω : Type) where
  config : ClusterConfig
  connector : Connector ω
  catalog : Catalog
  naming : Naming := .snakeCase
  postEvaluation : PostEvaluation := .rawRows

namespace Layer

variable {ω : Type}

def create (config : ClusterConfig) (connector : Connector ω) (catalog : Catalog) :
    Except ConfigError (Layer ω) := do
  return { config := ← config.checked, connector, catalog }

def withNaming (l : Layer ω) (naming : Naming) : Layer ω :=
  { l with naming }

def withPostEvaluation (l : Layer ω) (postEvaluation : PostEvaluation) : Layer ω :=
  { l with postEvaluation }

def connect (l : Layer ω) : Action ω (Transport ω) :=
  ExceptT.mk fun w =>
    match l.connector l.config w.outside with
    | (.error e, outside) => (.error e.toError, { World.record .connecting w with outside })
    | (.ok transport, outside) =>
      let event := Event.connected l.config.keyspace w.held.isSome
      let w := World.record (.logged event) (World.record .connecting w)
      (.ok transport, { w with outside, held := some transport })

def transport (l : Layer ω) : Action ω (Transport ω) := do
  let w ← get
  match w.held with
  | some transport => if transport.isClosed w.outside then l.connect else return transport
  | none => l.connect

def beginSession (l : Layer ω) : Action ω (Session ω) := do
  return {
    transport := ← l.transport
    catalog := l.catalog
    naming := l.naming
    postEvaluation := l.postEvaluation }

end Layer

end WideColumn

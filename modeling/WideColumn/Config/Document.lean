import WideColumn.Config.Basic

namespace WideColumn

inductive Document where
  | null
  | bool (b : Bool)
  | integer (i : Int)
  | text (s : String)
  | array (items : List Document)
  | table (entries : List (String × Document))
  | other
deriving Inhabited, Repr

inductive DocumentFormat where
  | json
  | toml
deriving DecidableEq, Repr

namespace DocumentFormat

/-- Whether an array may hold more than the settings of a group; what is more has no effect. -/
def ignoresSurplus : DocumentFormat → Bool
  | json => false
  | toml => true

/-- Whether a value says that a choice has no content. TOML has no null, so it leaves an array or
a table empty. -/
def isNoContent : DocumentFormat → Document → Bool
  | json, .null => true
  | toml, .array [] => true
  | toml, .table [] => true
  | _, _ => false

end DocumentFormat

namespace Document

def settings (format : DocumentFormat) (names : List String) :
    Document → Option (List (String × Document))
  | table entries => if entries.all fun e => names.contains e.1 then some entries else none
  | array items =>
    if format.ignoresSurplus || items.length ≤ names.length then some (names.zip items) else none
  | _ => none

def asBool : Document → Option Bool
  | bool b => some b
  | _ => none

def asText : Document → Option String
  | text s => some s
  | _ => none

def asUInt32 : Document → Option UInt32
  | integer i => if 0 ≤ i ∧ i.toNat < UInt32.size then some (.ofNat i.toNat) else none
  | _ => none

def asTexts : Document → Option (List String)
  | array items => items.mapM asText
  | _ => none

def asConsistency (format : DocumentFormat) : Document → Option Consistency
  | text s => Consistency.ofName? s
  | table [(name, content)] => if format.isNoContent content then Consistency.ofName? name else none
  | _ => none

def nullable {α : Type} (read : Document → Option α) : Document → Option (Option α)
  | null => some none
  | d => (read d).map some

def setting {α : Type} (settings : List (String × Document)) (name : String)
    (read : Document → Option α) (default : α) : Option α :=
  match settings.lookup name with
  | some d => read d
  | none => some default

def asCredentials (format : DocumentFormat) (d : Document) : Option Credentials := do
  let s ← d.settings format ["username", "password"]
  let username ← s.lookup "username"
  let password ← s.lookup "password"
  return ⟨← username.asText, ← password.asText⟩

def asPool (format : DocumentFormat) (d : Document) : Option PoolConfig := do
  let s ← d.settings format ["core_connections_local", "max_connections_local",
    "core_connections_remote", "max_connections_remote", "max_requests_per_local_connection",
    "max_requests_per_remote_connection", "heartbeat_interval_secs"]
  let base : PoolConfig := {}
  return {
    coreLocal := ← setting s "core_connections_local" asUInt32 base.coreLocal
    maxLocal := ← setting s "max_connections_local" asUInt32 base.maxLocal
    coreRemote := ← setting s "core_connections_remote" asUInt32 base.coreRemote
    maxRemote := ← setting s "max_connections_remote" asUInt32 base.maxRemote
    requestsPerLocal := ←
      setting s "max_requests_per_local_connection" asUInt32 base.requestsPerLocal
    requestsPerRemote := ←
      setting s "max_requests_per_remote_connection" asUInt32 base.requestsPerRemote
    heartbeatSeconds := ← setting s "heartbeat_interval_secs" asUInt32 base.heartbeatSeconds }

def asQueryConfig (format : DocumentFormat) (d : Document) : Option QueryConfig := do
  let s ← d.settings format ["consistency", "default_idempotence", "fetch_size"]
  let base : QueryConfig := {}
  return {
    consistency := ← setting s "consistency" (asConsistency format) base.consistency
    defaultIdempotence := ← setting s "default_idempotence" asBool base.defaultIdempotence
    fetchSize := ← setting s "fetch_size" asUInt32 base.fetchSize }

def asClusterConfig (format : DocumentFormat) (d : Document) : Option ClusterConfig := do
  let s ← d.settings format
    ["contact_points", "keyspace", "cluster_name", "credentials", "pool", "query"]
  let base : ClusterConfig := {}
  return {
    contactPoints := ← setting s "contact_points" asTexts base.contactPoints
    keyspace := ← setting s "keyspace" asText base.keyspace
    clusterName := ← setting s "cluster_name" (nullable asText) base.clusterName
    credentials := ← setting s "credentials" (nullable (asCredentials format)) base.credentials
    pool := ← setting s "pool" (asPool format) base.pool
    query := ← setting s "query" (asQueryConfig format) base.query }

end Document

namespace ClusterConfig

def ofDocument (format : DocumentFormat) (d : Document) : Except ConfigError ClusterConfig :=
  match d.asClusterConfig format with
  | some c => .ok c
  | none => .error .unreadable

end ClusterConfig

end WideColumn

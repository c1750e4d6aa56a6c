import WideColumn.Error
import WideColumn.Text.Blank
import WideColumn.Text.Quoted

namespace WideColumn

inductive Consistency where
  | any
  | one
  | two
  | three
  | quorum
  | all
  | localQuorum
  | eachQuorum
  | serial
  | localSerial
  | localOne
deriving DecidableEq, Repr

namespace Consistency

def name : Consistency → String
  | any => "ANY"
  | one => "ONE"
  | two => "TWO"
  | three => "THREE"
  | quorum => "QUORUM"
  | all => "ALL"
  | localQuorum => "LOCAL_QUORUM"
  | eachQuorum => "EACH_QUORUM"
  | serial => "SERIAL"
  | localSerial => "LOCAL_SERIAL"
  | localOne => "LOCAL_ONE"

def levels : List Consistency :=
  [any, one, two, three, quorum, all, localQuorum, eachQuorum, serial, localSerial, localOne]

def ofName? (name : String) : Option Consistency :=
  levels.find? fun c => c.name == name

end Consistency

structure Credentials where
  username : String
  password : String
deriving DecidableEq

namespace Credentials

def describe (c : Credentials) : String :=
  "Credentials \x7b username: " ++ Text.quoted c.username ++ ", password: \"***\" \x7d"

end Credentials

structure PoolConfig where
  coreLocal : UInt32 := 4
  maxLocal : UInt32 := 8
  coreRemote : UInt32 := 1
  maxRemote : UInt32 := 4
  requestsPerLocal : UInt32 := 1024
  requestsPerRemote : UInt32 := 512
  heartbeatSeconds : UInt32 := 30
deriving DecidableEq, Repr

structure QueryConfig where
  consistency : Consistency := .localOne
  defaultIdempotence : Bool := false
  fetchSize : UInt32 := 5000
deriving DecidableEq, Repr

structure ClusterConfig where
  contactPoints : List String := ["127.0.0.1"]
  keyspace : String := ""
  clusterName : Option String := none
  credentials : Option Credentials := none
  pool : PoolConfig := {}
  query : QueryConfig := {}
deriving DecidableEq

inductive ConfigFault where
  | noContactPoint
  | noKeyspace
  | noFetchSize
  | localPool (core max : UInt32)
  | remotePool (core max : UInt32)
deriving DecidableEq, Repr

namespace ConfigFault

def poolMessage (pool : String) (core max : UInt32) : String :=
  s!"{pool} pool core size {core} exceeds max size {max}"

def message : ConfigFault → String
  | noContactPoint => "at least one contact point is required"
  | noKeyspace => "keyspace must be set"
  | noFetchSize => "fetch_size must be positive"
  | localPool core max => poolMessage "local" core max
  | remotePool core max => poolMessage "remote" core max

end ConfigFault

inductive ConfigError where
  | invalid (fault : ConfigFault)
  | unreadable
deriving DecidableEq, Repr

namespace ConfigError

def message : ConfigError → String
  | invalid fault => "invalid configuration: " ++ fault.message
  | unreadable => "unable to parse configuration"

def toError (e : ConfigError) : Error where
  category := .configuration
  origin := .config
  message := e.message

instance : ToError ConfigError := ⟨toError⟩

end ConfigError

namespace PoolConfig

def validate (p : PoolConfig) : Except ConfigFault Unit := do
  if p.maxLocal < p.coreLocal then throw (.localPool p.coreLocal p.maxLocal)
  if p.maxRemote < p.coreRemote then throw (.remotePool p.coreRemote p.maxRemote)

end PoolConfig

namespace ClusterConfig

def validate (c : ClusterConfig) : Except ConfigFault Unit := do
  if c.contactPoints.isEmpty then throw .noContactPoint
  if (Text.trimBlank c.keyspace).isEmpty then throw .noKeyspace
  if c.query.fetchSize = 0 then throw .noFetchSize
  c.pool.validate

def checked (c : ClusterConfig) : Except ConfigError ClusterConfig :=
  match c.validate with
  | .ok _ => .ok c
  | .error fault => .error (.invalid fault)

end ClusterConfig

end WideColumn

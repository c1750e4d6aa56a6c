import WideColumn.Layer
import WideColumn.Value.Compare

namespace WideColumn

structure ScriptedFailure where
  onPrepare : Bool := false
  opening : Option String := none
  value : Option Value := none
  nth : Option Nat := none
  error : TransportError

namespace ScriptedFailure

def hits (f : ScriptedFailure) (onPrepare : Bool) (cql : String) (values : List Value)
    (nth : Nat) : Bool :=
  f.onPrepare == onPrepare && f.opening.all (fun o => o.toList.isPrefixOf cql.toList) &&
    f.value.all (fun v => values.any v.same) && f.nth.all (· == nth)

end ScriptedFailure

structure ScriptedConnection where
  responses : List (List Row) := []
  failures : List ScriptedFailure := []
  closed : Bool := false
  count : Nat := 0
  executed : List Statement := []
  prepared : List String := []
deriving Inhabited

namespace ScriptedConnection

def failure? (c : ScriptedConnection) (onPrepare : Bool) (cql : String) (values : List Value)
    (nth : Nat) : Option TransportError :=
  (c.failures.find? fun f => f.hits onPrepare cql values nth).map ScriptedFailure.error

def execute (c : ScriptedConnection) (s : Statement) :
    Except TransportError (List Row) × ScriptedConnection :=
  let asked := { c with count := c.count + 1, executed := c.executed ++ [s] }
  if c.closed then (.error .closed, asked)
  else
    match c.failure? false s.cql s.values c.count, c.responses with
    | some e, _ => (.error e, asked)
    | none, [] => (.ok [], asked)
    | none, batch :: rest => (.ok batch, { asked with responses := rest })

def prepare (c : ScriptedConnection) (cql : String) :
    Except TransportError String × ScriptedConnection :=
  let reply := match c.failure? true cql [] c.prepared.length with
    | some e => .error e
    | none => .ok cql
  (reply, { c with prepared := c.prepared ++ [cql] })

def clear (c : ScriptedConnection) : ScriptedConnection :=
  { c with executed := [], prepared := [] }

def close (c : ScriptedConnection) : ScriptedConnection :=
  { c with closed := true }

end ScriptedConnection

structure ScriptedStore where
  connections : List ScriptedConnection := []
  pending : List ScriptedConnection := []
  refused : List Nat := []
  attempts : Nat := 0

namespace ScriptedStore

def connection (s : ScriptedStore) (i : Nat) : ScriptedConnection :=
  s.connections.getD i {}

def modify (s : ScriptedStore) (i : Nat) (f : ScriptedConnection → ScriptedConnection) :
    ScriptedStore :=
  { s with connections := s.connections.modify i f }

def clear (s : ScriptedStore) : ScriptedStore :=
  { s with connections := s.connections.map .clear }

def closeLast (s : ScriptedStore) : ScriptedStore :=
  s.modify (s.connections.length - 1) .close

def transport (plain : Bool) (i : Nat) : Transport ScriptedStore :=
  let execute (statement : Statement) (s : ScriptedStore) :=
    let (reply, c) := (s.connection i).execute statement
    (reply, s.modify i fun _ => c)
  if plain then { execute }
  else
    { execute
      prepare := fun cql s =>
        let (reply, c) := (s.connection i).prepare cql
        (reply, s.modify i fun _ => c)
      isClosed := fun s => (s.connection i).closed }

def connector (plain : Bool) : Connector ScriptedStore := fun config s =>
  let asked := { s with attempts := s.attempts + 1 }
  if s.refused.contains s.attempts then
    (.error (.connect ("scripted for " ++ config.keyspace)), asked)
  else
    let connections := s.connections ++ [s.pending.head?.getD {}]
    (.ok (transport plain s.connections.length),
      { asked with connections, pending := s.pending.tail })

end ScriptedStore

end WideColumn

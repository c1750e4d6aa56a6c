import WideColumn.Session.Basic
import WideColumn.Session.Subject

namespace WideColumn

structure Mutation (α : Type) where
  resource : Option String := none
  items : List α := []
  query : Option Query := none
  values : NamedValues := {}

namespace Mutation

variable {α : Type}

def hasScope (m : Mutation α) : Bool :=
  !m.items.isEmpty || m.query.isSome

def requireScope (m : Mutation α) : Except SessionError Unit :=
  if m.hasScope then .ok () else .error .scopeMissing

end Mutation

namespace Session

variable {ω ρ α β : Type}

def bestEffort (skip : Error → Event) (attempt : α → Action ω β) :
    List α → StateM (World ω) (List β)
  | [] => return []
  | x :: xs => do
    match ← (attempt x).run with
    | .ok y => return y :: (← bestEffort skip attempt xs)
    | .error e =>
      Action.log (skip e)
      bestEffort skip attempt xs

def keyValues (owner : String) (value? : String → Option Value) :
    List String → Except SessionError (List Value)
  | [] => .ok []
  | key :: keys =>
    match value? key with
    | none => .error (.keyMissing owner key)
    | some v => do return v :: (← keyValues owner value? keys)

def itemKeys (subject : Subject α) (item : α) (keys : List String) :
    Except SessionError (List Value) :=
  keyValues subject.resource (subject.keyValue? item) keys

def rowKeys (row : RowMap) (keys : List String) : Except SessionError (List Value) :=
  keyValues "row" (fun key => Subject.nonNull (row.get? key)) keys

def typedSubject (s : Session ω) (model : RecordModel ρ) : Action ω (Subject ρ) := do
  let table ← s.table model
  return .typed table (← s.materializer)

def untypedSubject (s : Session ω) (mutation : Mutation RowMap) :
    Except SessionError (Subject RowMap) := do
  match mutation.resource <|> mutation.query.map Query.resource with
  | none => throw .resourceMissing
  | some resource => return .untyped (← s.resourceName resource) s.naming

end Session

end WideColumn

import WideColumn.Config.Toml.Scalar
import WideColumn.Config.Toml.Table

namespace WideColumn.Toml

mutual

/-- Reads a value in which arrays and inline tables are nested at most `depth` deep; `fuel` bounds
the number of steps. -/
def value : Nat → Nat → List Char → Option (Document × List Char)
  | 0, _, _ => none
  | fuel + 1, depth, cs =>
    match cs, depth with
    | '"' :: _, _ => (text '"' cs).map fun (t, r) => (.text t, r)
    | '\'' :: _, _ => (text '\'' cs).map fun (t, r) => (.text t, r)
    | '[' :: _, 0 | '{' :: _, 0 => none
    | '[' :: cs, depth + 1 => do
      let (items, r) ← arrayItems fuel depth (← skipBlank false cs)
      return (.array items, r)
    | '{' :: cs, depth + 1 => do
      let (entries, r) ← tableEntries fuel depth [] (← skipBlank false cs)
      return (entries.toDocument, r)
    | cs, _ => word cs

def arrayItems : Nat → Nat → List Char → Option (List Document × List Char)
  | 0, _, _ => none
  | _ + 1, _, ']' :: cs => some ([], cs)
  | fuel + 1, depth, cs => do
    let (item, cs) ← value fuel depth cs
    match ← skipBlank false cs with
    | ',' :: cs =>
      let (items, r) ← arrayItems fuel depth (← skipBlank false cs)
      return (item :: items, r)
    | ']' :: cs => return ([item], cs)
    | _ => none

/-- Reads the entries of an inline table up to its brace. They may stand on several lines, and a
comma may follow the last one. -/
def tableEntries : Nat → Nat → Entries → List Char → Option (Entries × List Char)
  | 0, _, _, _ => none
  | _ + 1, _, entries, '}' :: cs => some (entries, cs)
  | fuel + 1, depth, entries, cs => do
    let (k, cs) ← key (cs.length + 1) cs
    match ← skipBlank false cs with
    | '=' :: cs =>
      let (v, cs) ← value fuel depth (← skipBlank false cs)
      let entries ← entries.define k v
      match ← skipBlank false cs with
      | ',' :: cs => tableEntries fuel depth entries (← skipBlank false cs)
      | '}' :: cs => return (entries, cs)
      | _ => none
    | _ => none

end

def maxDepth : Nat := 80

structure State where
  entries : Entries := []
  header : List String := []

namespace State

def openTable (s : State) (k : Key) : Option State := do
  return ⟨← s.entries.openTable k, k.path ++ [k.name]⟩

def openItem (s : State) (k : Key) : Option State := do
  return ⟨← s.entries.openItem k, k.path ++ [k.name]⟩

def define (s : State) (k : Key) (v : Document) : Option State := do
  let entries ← s.entries.change false (fun _ inner => inner.define k v) s.header .header
  return { s with entries }

end State

def header (s : State) (cs : List Char) : Option (State × List Char) :=
  match cs with
  | '[' :: cs => do
    let (k, cs) ← key (cs.length + 1) (skipSpaces cs)
    match cs with
    | ']' :: ']' :: cs => return (← s.openItem k, ← endLine false cs)
    | _ => none
  | cs => do
    let (k, cs) ← key (cs.length + 1) (skipSpaces cs)
    match cs with
    | ']' :: cs => return (← s.openTable k, ← endLine false cs)
    | _ => none

def assignment (s : State) (cs : List Char) : Option (State × List Char) := do
  let (k, cs) ← key (cs.length + 1) cs
  match cs with
  | '=' :: cs =>
    let (v, cs) ← value (cs.length + 1) maxDepth (skipSpaces cs)
    return (← s.define k v, ← endLine false cs)
  | _ => none

def lines : Nat → State → List Char → Option State
  | 0, _, _ => none
  | fuel + 1, s, cs => do
    match ← skipBlank false cs with
    | [] => return s
    | '[' :: cs =>
      let (s, cs) ← header s cs
      lines fuel s cs
    | cs =>
      let (s, cs) ← assignment s cs
      lines fuel s cs

def document (source : String) : Option Document :=
  let cs := match source.toList with
    | '\uFEFF' :: cs => cs
    | cs => cs
  (lines (cs.length + 1) {} cs).map (·.entries.toDocument)

end WideColumn.Toml

namespace WideColumn.ClusterConfig

def ofToml (source : String) : Except ConfigError ClusterConfig :=
  match Toml.document source with
  | none => .error .unreadable
  | some d => do (← ofDocument .toml d).checked

end WideColumn.ClusterConfig

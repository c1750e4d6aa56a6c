import WideColumn.Config.Document
import WideColumn.Config.Toml.Text

namespace WideColumn.Toml

inductive TableOrigin where
  | header
  | headerPath
  | dottedNames
deriving DecidableEq

inductive Entry where
  | value (v : Document)
  | table (origin : TableOrigin) (entries : List (String × Entry))
  /-- Tables under one header in double brackets, of which the last one is open. -/
  | tables (closed : List (List (String × Entry))) (last : List (String × Entry))

abbrev Entries := List (String × Entry)

namespace Entry

mutual

def toDocument : Entry → Document
  | value v => v
  | table _ entries => .table (entriesToDocument entries)
  | tables closed last => .array (tablesToDocument closed ++ [.table (entriesToDocument last)])

def entriesToDocument : List (String × Entry) → List (String × Document)
  | [] => []
  | (name, e) :: rest => (name, e.toDocument) :: entriesToDocument rest

def tablesToDocument : List (List (String × Entry)) → List Document
  | [] => []
  | entries :: rest => .table (entriesToDocument entries) :: tablesToDocument rest

end

end Entry

namespace Entries

def toDocument (entries : Entries) : Document :=
  .table (Entry.entriesToDocument entries)

def put (name : String) (e : Entry) : Entries → Entries
  | [] => [(name, e)]
  | old :: rest => if old.1 = name then (name, e) :: rest else old :: put name e rest

/-- Changes the table at the end of a path, which starts at a table of some origin. Tables that
are missing on the way are opened. Dotted names do not lead through a table with a header of its
own. -/
def change (byDots : Bool) (f : TableOrigin → Entries → Option Entries) :
    List String → TableOrigin → Entries → Option Entries
  | [], origin, entries => f origin entries
  | name :: path, _, entries => do
    let e ← match entries.lookup name with
      | none =>
        let origin := if byDots then .dottedNames else .headerPath
        (change byDots f path origin []).map (.table origin)
      | some (.table origin inner) =>
        if byDots && origin == .header then none
        else (change byDots f path origin inner).map (.table origin)
      | some (.tables closed last) => (change byDots f path .header last).map (.tables closed)
      | some (.value _) => none
    return put name e entries

def openTable (k : Key) (entries : Entries) : Option Entries :=
  change false (fun _ entries =>
    match entries.lookup k.name with
    | none => some (put k.name (.table .header []) entries)
    | some (.table .headerPath inner) => some (put k.name (.table .header inner) entries)
    | some _ => none) k.path .header entries

def openItem (k : Key) (entries : Entries) : Option Entries :=
  change false (fun _ entries =>
    match entries.lookup k.name with
    | none => some (put k.name (.tables [] []) entries)
    | some (.tables closed last) => some (put k.name (.tables (closed ++ [last]) []) entries)
    | some _ => none) k.path .header entries

def define (k : Key) (v : Document) (entries : Entries) : Option Entries :=
  change true (fun origin entries =>
    if (entries.lookup k.name).isNone && (k.path.isEmpty || origin == .dottedNames) then
      some (put k.name (.value v) entries)
    else none) k.path .header entries

end Entries

end WideColumn.Toml

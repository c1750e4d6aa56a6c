namespace WideColumn.Window

def saturatingAdd (a b : UInt32) : UInt32 :=
  if a.toNat + b.toNat < UInt32.size then a + b else 0xFFFFFFFF

/-- The limit a store can apply itself. It covers the skipped rows; a residual filter, which may
drop rows later, rules it out. -/
def nativeLimit (limit start : Option UInt32) (hasResidual : Bool) : Option UInt32 :=
  if hasResidual then none
  else limit.map fun limit =>
    match start with
    | some start => saturatingAdd start limit
    | none => limit

def dropStart {α : Type} (start : Option UInt32) (rows : List α) : List α :=
  match start with
  | some start => rows.drop start.toNat
  | none => rows

def takeLimit {α : Type} (limit : Option UInt32) (rows : List α) : List α :=
  match limit with
  | some limit => rows.take limit.toNat
  | none => rows

def apply {α : Type} (start limit : Option UInt32) (rows : List α) : List α :=
  takeLimit limit (dropStart start rows)

end WideColumn.Window

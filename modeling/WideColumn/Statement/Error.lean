import WideColumn.Error

namespace WideColumn

inductive StatementError where
  | nothingToInsert (resource : String)
  | nothingToSet (resource : String)
  | updateWithoutKey (resource : String)
  | deleteWithoutKey (resource : String)
  | updateArity (setExpected keysExpected setGiven keysGiven : Nat)
  | deleteArity (expected given : Nat)
deriving DecidableEq, Repr

namespace StatementError

def message : StatementError → String
  | nothingToInsert resource => s!"insert into '{resource}' has no values for known columns"
  | nothingToSet resource => s!"update of '{resource}' has no columns to set"
  | updateWithoutKey resource => s!"update of '{resource}' has no key columns"
  | deleteWithoutKey resource => s!"delete from '{resource}' has no key columns"
  | updateArity setExpected keysExpected setGiven keysGiven =>
    s!"update expects {setExpected} set and {keysExpected} key values, " ++
      s!"got {setGiven} and {keysGiven}"
  | deleteArity expected given => s!"delete expects {expected} key values, got {given}"

def toError (e : StatementError) : Error where
  category := .configuration
  origin := .statement
  message := e.message

instance : ToError StatementError := ⟨toError⟩

end StatementError

end WideColumn

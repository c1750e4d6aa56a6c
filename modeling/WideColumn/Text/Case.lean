import WideColumn.Text.CaseData

namespace WideColumn.Text

def isUppercase (c : Char) : Bool :=
  if c.toNat < 0x80 then c.isUpper else inRanges uppercaseRanges c

def isCased (c : Char) : Bool :=
  if c.toNat < 0x80 then c.isAlpha else inRanges casedRanges c

def isCaseIgnorable (c : Char) : Bool :=
  if c.toNat < 0x80 then c == '\'' || c == '.' || c == ':' || c == '^' || c == (Char.ofNat 0x60)
  else inRanges caseIgnorableRanges c

def shifted (table : List CaseShift) (c : Char) : Char :=
  match table.find? (·.range.contains c) with
  | some shift => shift.apply c
  | none => c

/-- The lowercase of one character out of context; only `İ` becomes two characters. -/
def lowerChar (c : Char) : List Char :=
  if c.toNat < 0x80 then [c.toLower]
  else if c.toNat = 0x130 then ['i', Char.ofNat 0x307]
  else [shifted lowerShifts c]

def upperChar (c : Char) : List Char :=
  if c.toNat < 0x80 then [c.toUpper]
  else match upperExpansions.lookup c.toNat with
    | some codes => codes.map Char.ofNat
    | none => [shifted upperShifts c]

def upperText (cs : List Char) : List Char :=
  cs.flatMap upperChar

def leadsToCased (cs : List Char) : Bool :=
  (cs.dropWhile isCaseIgnorable).head?.any isCased

/-- Lowercases `cs` after the characters `before`, nearest first; a capital sigma that ends a
word becomes the final form. -/
def lowerAfter (before : List Char) : List Char → List Char
  | [] => []
  | c :: rest =>
    let lowered :=
      if c = 'Σ' then [if leadsToCased before && !leadsToCased rest then 'ς' else 'σ']
      else lowerChar c
    lowered ++ lowerAfter (c :: before) rest

def lowerText (cs : List Char) : List Char :=
  lowerAfter [] cs

end WideColumn.Text

namespace WideColumn.Toml

-- A reader answers what it found and the text after it.

def isSpace (c : Char) : Bool :=
  c == ' ' || c == '\t'

def isControl (c : Char) : Bool :=
  (c.toNat < 0x20 && c != '\t') || c.toNat == 0x7F

def skipSpaces (cs : List Char) : List Char :=
  cs.dropWhile isSpace

def skipBlank (inComment : Bool) : List Char → Option (List Char)
  | [] => some []
  | '\n' :: cs => skipBlank false cs
  | '\r' :: '\n' :: cs => skipBlank false cs
  | c :: cs =>
    if inComment then if isControl c then none else skipBlank true cs
    else if isSpace c then skipBlank false cs
    else if c = '#' then skipBlank true cs
    else some (c :: cs)

def endLine (inComment : Bool) : List Char → Option (List Char)
  | [] => some []
  | '\n' :: cs => some cs
  | '\r' :: '\n' :: cs => some cs
  | c :: cs =>
    if inComment then if isControl c then none else endLine true cs
    else if isSpace c then endLine false cs
    else if c = '#' then endLine true cs
    else none

def hexValue? (c : Char) : Option Nat :=
  if '0' ≤ c ∧ c ≤ '9' then some (c.toNat - '0'.toNat)
  else if 'a' ≤ c ∧ c ≤ 'f' then some (c.toNat - 'a'.toNat + 10)
  else if 'A' ≤ c ∧ c ≤ 'F' then some (c.toNat - 'A'.toNat + 10)
  else none

def charOfHex? (digits : List Char) : Option Char := do
  let code := (← digits.mapM hexValue?).foldl (fun n d => 16 * n + d) 0
  if code.isValidChar then return Char.ofNat code else none

def simpleEscape? : Char → Option Char
  | 'b' => some '\x08'
  | 't' => some '\t'
  | 'n' => some '\n'
  | 'f' => some '\x0c'
  | 'r' => some '\r'
  | 'e' => some '\x1b'
  | '"' => some '"'
  | '\\' => some '\\'
  | _ => none

def escape : List Char → Option (Char × List Char)
  | 'x' :: a :: b :: cs => (charOfHex? [a, b]).map (·, cs)
  | 'u' :: a :: b :: c :: d :: cs => (charOfHex? [a, b, c, d]).map (·, cs)
  | 'U' :: a :: b :: c :: d :: e :: f :: g :: h :: cs =>
    (charOfHex? [a, b, c, d, e, f, g, h]).map (·, cs)
  | c :: cs => (simpleEscape? c).map (·, cs)
  | [] => none

def continuesLine (cs : List Char) : Bool :=
  match skipSpaces cs with
  | '\n' :: _ | '\r' :: '\n' :: _ => true
  | _ => false

def skipLineEnds : List Char → List Char
  | '\n' :: cs => skipLineEnds cs
  | '\r' :: '\n' :: cs => skipLineEnds cs
  | c :: cs => if isSpace c then skipLineEnds cs else c :: cs
  | [] => []

structure Delimiter where
  quote : Char
  multiLine : Bool

namespace Delimiter

/-- Double quotes admit escapes, single quotes take every character as it is. -/
def hasEscapes (d : Delimiter) : Bool :=
  d.quote == '"'

/-- Reads what ends a text. Two more quotes at the end of a multi-line text belong to it. -/
def close? (d : Delimiter) : List Char → Option (List Char × List Char)
  | a :: cs =>
    if a != d.quote then none
    else if !d.multiLine then some ([], cs)
    else
      let quotes := (a :: cs).takeWhile (· == d.quote)
      if quotes.length < 3 then none
      else
        let taken := min quotes.length 5
        some (List.replicate (taken - 3) d.quote, (a :: cs).drop taken)
  | [] => none

end Delimiter

def textChars (d : Delimiter) : Nat → List Char → Option (List Char × List Char)
  | 0, _ => none
  | fuel + 1, cs =>
    match d.close? cs with
    | some closed => some closed
    | none =>
      match cs with
      | [] => none
      | '\r' :: '\n' :: cs =>
        if d.multiLine then (textChars d fuel cs).map fun (t, r) => ('\r' :: '\n' :: t, r) else none
      | c :: cs =>
        if c = '\\' && d.hasEscapes then
          if d.multiLine && continuesLine cs then textChars d fuel (skipLineEnds cs)
          else do
            let (e, cs) ← escape cs
            let (t, r) ← textChars d fuel cs
            return (e :: t, r)
        else if isControl c && !(d.multiLine && c == '\n') then none
        else (textChars d fuel cs).map fun (t, r) => (c :: t, r)

def dropFirstLineEnd : List Char → List Char
  | '\n' :: cs => cs
  | '\r' :: '\n' :: cs => cs
  | cs => cs

def text (quote : Char) (cs : List Char) : Option (String × List Char) :=
  match cs with
  | a :: b :: c :: rest =>
    if a = quote ∧ b = quote ∧ c = quote then
      (textChars ⟨quote, true⟩ (rest.length + 1) (dropFirstLineEnd rest)).map
        fun (t, r) => (String.ofList t, r)
    else if a = quote then
      (textChars ⟨quote, false⟩ cs.length (b :: c :: rest)).map fun (t, r) => (String.ofList t, r)
    else none
  | [a, b] => if a = quote ∧ b = quote then some ("", []) else none
  | _ => none

def isBare (c : Char) : Bool :=
  c.isAlphanum || c == '_' || c == '-'

def name (cs : List Char) : Option (String × List Char) :=
  match cs with
  | '"' :: rest =>
    (textChars ⟨'"', false⟩ cs.length rest).map fun (t, r) => (String.ofList t, r)
  | '\'' :: rest =>
    (textChars ⟨'\'', false⟩ cs.length rest).map fun (t, r) => (String.ofList t, r)
  | cs =>
    match cs.takeWhile isBare with
    | [] => none
    | bare => some (String.ofList bare, cs.dropWhile isBare)

structure Key where
  path : List String
  name : String

def key : Nat → List Char → Option (Key × List Char)
  | 0, _ => none
  | fuel + 1, cs => do
    let (first, cs) ← name cs
    match skipSpaces cs with
    | '.' :: cs =>
      let (rest, cs) ← key fuel (skipSpaces cs)
      return (⟨first :: rest.path, rest.name⟩, cs)
    | cs => return (⟨[], first⟩, cs)

end WideColumn.Toml

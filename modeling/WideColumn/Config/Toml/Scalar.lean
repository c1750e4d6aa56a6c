import WideColumn.Config.Document
import WideColumn.Config.Toml.Text

namespace WideColumn.Toml

def digits? (base : Nat) (value : Nat) : List Char → Option Nat
  | [] => none
  | [c] => do
    let d ← hexValue? c
    if d < base then return base * value + d else none
  | c :: '_' :: cs => do
    let d ← hexValue? c
    if d < base then digits? base (base * value + d) cs else none
  | c :: cs => do
    let d ← hexValue? c
    if d < base then digits? base (base * value + d) cs else none

def decimal? : List Char → Option Nat
  | '0' :: _ :: _ => none
  | cs => digits? 10 0 cs

def integer? : List Char → Option Int
  | '0' :: 'x' :: cs => (digits? 16 0 cs).map Int.ofNat
  | '0' :: 'o' :: cs => (digits? 8 0 cs).map Int.ofNat
  | '0' :: 'b' :: cs => (digits? 2 0 cs).map Int.ofNat
  | '+' :: cs => (decimal? cs).map Int.ofNat
  | '-' :: cs => (decimal? cs).map fun n => -(n : Int)
  | cs => (decimal? cs).map Int.ofNat

def isDigits (cs : List Char) : Bool :=
  (digits? 10 0 cs).isSome

def unsigned : List Char → List Char
  | '+' :: cs => cs
  | '-' :: cs => cs
  | cs => cs

def isExponent : List Char → Bool
  | c :: cs => (c == 'e' || c == 'E') && isDigits (unsigned cs)
  | [] => false

def isDigitChar (c : Char) : Bool :=
  c.isDigit || c == '_'

def isFloatTail : List Char → Bool
  | '.' :: cs =>
    let rest := cs.dropWhile isDigitChar
    isDigits (cs.takeWhile isDigitChar) && (rest.isEmpty || isExponent rest)
  | cs => isExponent cs

def isFloat (cs : List Char) : Bool :=
  let cs := unsigned cs
  cs == "inf".toList || cs == "nan".toList ||
    ((decimal? (cs.takeWhile isDigitChar)).isSome && isFloatTail (cs.dropWhile isDigitChar))

def fixedNumber (count : Nat) (cs : List Char) : Option (Nat × List Char) :=
  let taken := cs.take count
  if taken.length = count ∧ taken.all Char.isDigit then
    (digits? 10 0 taken).map (·, cs.drop count)
  else none

def daysInMonth (year month : Nat) : Nat :=
  if month = 2 then
    if year % 4 = 0 ∧ (year % 100 ≠ 0 ∨ year % 400 = 0) then 29 else 28
  else if month = 4 ∨ month = 6 ∨ month = 9 ∨ month = 11 then 30
  else 31

def mark (c : Char) : List Char → Option (List Char)
  | first :: cs => if first = c then some cs else none
  | [] => none

def date (cs : List Char) : Option (List Char) := do
  let (year, cs) ← fixedNumber 4 cs
  let (month, cs) ← fixedNumber 2 (← mark '-' cs)
  let (day, cs) ← fixedNumber 2 (← mark '-' cs)
  if 1 ≤ month ∧ month ≤ 12 ∧ 1 ≤ day ∧ day ≤ daysInMonth year month then return cs else none

def hourMinute (cs : List Char) : Option (List Char) := do
  let (hour, cs) ← fixedNumber 2 cs
  let (minute, cs) ← fixedNumber 2 (← mark ':' cs)
  if hour < 24 ∧ minute < 60 then return cs else none

def seconds (cs : List Char) : Option (List Char) := do
  let (second, cs) ← fixedNumber 2 cs
  if second ≤ 60 then
    match cs with
    | '.' :: d :: cs => if d.isDigit then return cs.dropWhile Char.isDigit else none
    | cs => return cs
  else none

def time (cs : List Char) : Option (List Char) := do
  match ← hourMinute cs with
  | ':' :: cs => seconds cs
  | cs => return cs

def isOffset : List Char → Bool
  | [] => true
  | '+' :: cs => hourMinute cs == some []
  | '-' :: cs => hourMinute cs == some []
  | cs => cs == ['Z'] || cs == ['z']

def isDateTime (cs : List Char) : Bool :=
  match date cs with
  | some [] => true
  | some (c :: cs) => (c == 'T' || c == 't' || c == ' ') && (time cs).any isOffset
  | none => time cs == some []

def word? (cs : List Char) : Option Document :=
  if cs = "true".toList then some (.bool true)
  else if cs = "false".toList then some (.bool false)
  else match integer? cs with
    | some i => some (.integer i)
    | none => if isFloat cs || isDateTime cs then some .other else none

def isWordChar (c : Char) : Bool :=
  isBare c || c == '+' || c == '.' || c == ':'

def splitWord (cs : List Char) : List Char × List Char :=
  let (first, rest) := cs.span isWordChar
  match rest with
  | ' ' :: d :: rest =>
    if date first == some [] && d.isDigit then
      let (second, rest) := (d :: rest).span isWordChar
      (first ++ ' ' :: second, rest)
    else (first, ' ' :: d :: rest)
  | rest => (first, rest)

def word (cs : List Char) : Option (Document × List Char) :=
  let (taken, rest) := splitWord cs
  (word? taken).map (·, rest)

end WideColumn.Toml

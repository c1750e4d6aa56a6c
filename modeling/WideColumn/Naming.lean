import WideColumn.Text.Case
import WideColumn.Text.Cluster

namespace WideColumn

structure Naming where
  normalize : String → String
  denormalize : String → String

namespace Naming

def identity : Naming := ⟨id, id⟩

end Naming

namespace SnakeCase

open Text

def tailChar (c : Char) : List Char :=
  if isUppercase c then '_' :: lowerChar c else [c]

def headChar (c : Char) : List Char :=
  if isUppercase c then lowerChar c else [c]

def ofChars : List Char → List Char
  | [] => []
  | c :: rest => headChar c ++ rest.flatMap tailChar

/-- Every uppercase character after the first starts a word; digits and underscores never do. -/
def normalize (name : String) : String :=
  String.ofList (ofChars name.toList)

end SnakeCase

namespace CamelCase

open Text

abbrev Cluster := List Char

def isUpper (c : Cluster) : Bool :=
  upperText c != lowerText c && c == upperText c

def isLower (c : Cluster) : Bool :=
  upperText c != lowerText c && c == lowerText c

def isDigit (c : Cluster) : Bool :=
  c.all Char.isDigit

def isDelimiter (c : Cluster) : Bool :=
  c == ['_'] || c == ['-'] || c == [' ']

/-- A word ends between `a` and `b`: at a change to upper case, or between a letter and a digit. -/
def splitsBetween (a b : Cluster) : Bool :=
  (isLower a && isUpper b) || (isLower a && isDigit b) || (isUpper a && isDigit b) ||
    (isDigit a && isLower b) || (isDigit a && isUpper b)

/-- A word ends after a cluster that is followed by `rest`. In a run of capitals the last one
belongs to the next word if that goes on in lower case. -/
def endsWord (a : Cluster) : List Cluster → Bool
  | [] => false
  | [b] => splitsBetween a b
  | b :: c :: _ => splitsBetween a b || (isUpper a && isUpper b && isLower c)

def consFirst (c : Cluster) : List (List Cluster) → List (List Cluster)
  | [] => [[c]]
  | word :: words => (c :: word) :: words

def words : List Cluster → List (List Cluster)
  | [] => [[]]
  | c :: rest =>
    if isDelimiter c then [] :: words rest
    else if endsWord c rest then [c] :: words rest
    else consFirst c (words rest)

def capitalized : List Char → List Char
  | [] => []
  | c :: rest => upperChar c ++ lowerText rest

def joinWords : List (List Char) → List Char
  | [] => []
  | word :: rest => lowerText word ++ rest.flatMap capitalized

def denormalize (column : String) : String :=
  String.ofList (joinWords ((words (clusters column.toList)).map List.flatten))

end CamelCase

namespace Naming

def snakeCase : Naming := ⟨SnakeCase.normalize, CamelCase.denormalize⟩

end Naming

end WideColumn

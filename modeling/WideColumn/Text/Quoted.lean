import WideColumn.Text.ClusterData
import WideColumn.Text.UnprintableData

namespace WideColumn.Text

/-- The emoji modifiers and the halfwidth sound marks, which show by themselves although they
extend a cluster. -/
def showsAlone (c : Char) : Bool :=
  let n := c.toNat
  (0x1F3FB ≤ n && n ≤ 0x1F3FF) || n == 0xFF9E || n == 0xFF9F

def needsCode (c : Char) : Bool :=
  let n := c.toNat
  if n < 0x80 then n < 0x20 || n == 0x7F
  else (inRanges extendRanges c && !showsAlone c) || inRanges unprintableRanges c

def escapeChar (c : Char) : List Char :=
  if c = '"' || c = '\\' then ['\\', c]
  else if c = '\n' then ['\\', 'n']
  else if c = '\r' then ['\\', 'r']
  else if c = '\t' then ['\\', 't']
  else if c.toNat = 0 then ['\\', '0']
  else if needsCode c then "\\u\x7b".toList ++ Nat.toDigits 16 c.toNat ++ ['}']
  else [c]

def quoted (s : String) : String :=
  String.ofList ('"' :: s.toList.flatMap escapeChar ++ ['"'])

end WideColumn.Text

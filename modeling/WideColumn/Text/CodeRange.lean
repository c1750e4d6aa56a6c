namespace WideColumn.Text

structure CodeRange where
  first : Nat
  last : Nat
  step : Nat

namespace CodeRange

def contains (r : CodeRange) (c : Char) : Bool :=
  decide (r.first ≤ c.toNat) && decide (c.toNat ≤ r.last) && (c.toNat - r.first) % r.step == 0

end CodeRange

def inRanges (table : List CodeRange) (c : Char) : Bool :=
  table.any (·.contains c)

structure CaseShift where
  range : CodeRange
  offset : Int

namespace CaseShift

def apply (s : CaseShift) (c : Char) : Char :=
  Char.ofNat (c.toNat + s.offset).toNat

end CaseShift

end WideColumn.Text

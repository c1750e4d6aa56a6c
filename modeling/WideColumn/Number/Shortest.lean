import WideColumn.Number.Double

namespace WideColumn.Double

structure Decimal where
  digits : Nat
  exponent : Int
deriving DecidableEq, Repr

/-- The reals that round to a positive double, in units of `2 ^ (exponent - 1076)`:
`4 * significand` with the half gaps to its neighbours, the ends included when the significand is
even. -/
structure RoundingInterval where
  low : Nat
  value : Nat
  high : Nat
  closed : Bool

namespace RoundingInterval

def ofDouble (x : Double) : RoundingInterval :=
  let m := x.significand
  let below := if m = exponentBit ∧ 0 < x.exponent then 1 else 2
  ⟨4 * m - below, 4 * m, 4 * m + 2, m % 2 == 0⟩

def holds (r : RoundingInterval) (scale candidate : Nat) : Bool :=
  if r.closed then r.low * scale ≤ candidate && candidate ≤ r.high * scale
  else r.low * scale < candidate && candidate < r.high * scale

end RoundingInterval

def nearestOnGrid? (x : Double) (p : Int) : Option Decimal :=
  let r := RoundingInterval.ofDouble x
  let scale := Nat.pow 2 (x.exponent - 1076) * Nat.pow 10 (-p).toNat
  let unit := Nat.pow 2 (1076 - x.exponent) * Nat.pow 10 p.toNat
  let below := r.value * scale / unit
  let above := below + 1
  let belowHolds := r.holds scale (below * unit)
  let aboveHolds := r.holds scale (above * unit)
  if belowHolds && !(aboveHolds && unit ≤ 2 * (r.value * scale - below * unit)) then some ⟨below, p⟩
  else if aboveHolds then some ⟨above, p⟩
  else none

/-- The fewest digits that read back as a positive finite `x`: those of the coarsest decimal grid
that meets the rounding interval. -/
def shortest (x : Double) : Decimal :=
  ((List.range 633).findSome? fun i : Nat => nearestOnGrid? x (308 - (i : Int))).getD ⟨0, 0⟩

namespace Decimal

def positional (d : Decimal) : String :=
  let digits := (toString d.digits).toList
  if 0 ≤ d.exponent then String.ofList (digits ++ List.replicate d.exponent.toNat '0')
  else
    let places := (-d.exponent).toNat
    let padded := List.replicate (places + 1 - digits.length) '0' ++ digits
    let whole := padded.length - places
    String.ofList (padded.take whole ++ '.' :: padded.drop whole)

end Decimal

def text (x : Double) : String :=
  let sign := if x.isNegative then "-" else ""
  if x.isNaN then "NaN"
  else if x.magnitude = infinityMagnitude then sign ++ "inf"
  else if x.magnitude = 0 then sign ++ "0"
  else sign ++ x.shortest.positional

end WideColumn.Double

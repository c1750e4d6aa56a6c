namespace WideColumn

structure Double where
  bits : UInt64
deriving DecidableEq, Repr, Inhabited

namespace Double

abbrev signBit : Nat := 0x8000000000000000

abbrev exponentBit : Nat := 0x10000000000000

def infinityMagnitude : Nat := 0x7FF0000000000000

def magnitude (x : Double) : Nat :=
  x.bits.toNat % signBit

def isNegative (x : Double) : Bool :=
  signBit ≤ x.bits.toNat

def isNaN (x : Double) : Bool :=
  infinityMagnitude < x.magnitude

/-- A key whose order is the numeric order; both zeros have key zero. -/
def numericKey (x : Double) : Int :=
  if x.isNegative then -(x.magnitude : Int) else x.magnitude

/-- A key for the total order: `-NaN`, the negatives, `-0`, `+0`, the positives, `+NaN`. -/
def totalKey (x : Double) : Int :=
  if x.isNegative then -(x.magnitude : Int) - 1 else x.magnitude

def numericCompare (x y : Double) : Option Ordering :=
  if x.isNaN || y.isNaN then none else some (compare x.numericKey y.numericKey)

def totalCompare (x y : Double) : Ordering :=
  compare x.totalKey y.totalKey

instance : Ord Double := ⟨totalCompare⟩

theorem totalKey_injective {x y : Double} (h : x.totalKey = y.totalKey) : x = y := by
  obtain ⟨x⟩ := x
  obtain ⟨y⟩ := y
  have hx := x.toNat_lt
  have hy := y.toNat_lt
  simp only [totalKey, isNegative, magnitude, signBit, decide_eq_true_eq] at h
  have : x.toNat = y.toNat := by split at h <;> split at h <;> omega
  rw [UInt64.toNat_inj.mp this]

instance : Std.TransOrd Double where
  eq_swap := Std.OrientedOrd.eq_swap (α := Int)
  isLE_trans := Std.TransOrd.isLE_trans (α := Int)

instance : Std.LawfulEqOrd Double where
  compare_self := Std.ReflOrd.compare_self (α := Int)
  eq_of_compare h := totalKey_injective (Std.LawfulEqOrd.eq_of_compare (α := Int) h)

def sameNumber (x y : Double) : Bool :=
  x.numericCompare y == some .eq

def roundHalfEven (n unit : Nat) : Nat :=
  let quotient := n / unit
  let twice := 2 * (n % unit)
  if unit < twice || (twice == unit && quotient % 2 == 1) then quotient + 1 else quotient

def magnitudeOfNat (n : Nat) : Nat :=
  if n = 0 then 0
  else
    let k := n.log2
    let significand :=
      if k ≤ 52 then n * Nat.pow 2 (52 - k) else roundHalfEven n (Nat.pow 2 (k - 52))
    (k + 1022) * exponentBit + significand

def ofInt64 (i : Int64) : Double :=
  let n := i.toInt
  ⟨.ofNat ((if n < 0 then signBit else 0) + magnitudeOfNat n.natAbs)⟩

/-- `significand * 2 ^ (exponent - 1074)` is the magnitude of a finite number. -/
def exponent (x : Double) : Nat :=
  x.magnitude / exponentBit - 1

def significand (x : Double) : Nat :=
  if x.magnitude < exponentBit then x.magnitude else exponentBit + x.magnitude % exponentBit

end Double

end WideColumn

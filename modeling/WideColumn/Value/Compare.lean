import WideColumn.Value.Basic

namespace WideColumn

namespace EnumLabel

def compare (a b : EnumLabel) : Ordering :=
  (Ord.compare a.label b.label).then (Ord.compare a.path b.path)

end EnumLabel

namespace Value

def rank : Value → Nat
  | null => 0
  | bool _ => 1
  | int _ | double _ => 2
  | timestamp _ => 3
  | text _ => 4
  | blob _ => 5
  | enum _ => 6
  | type _ => 7
  | list _ => 8
  | set _ => 9
  | map _ => 10

mutual

/-- Structural equality, with the numeric equality on doubles: a NaN differs from itself and both
zeros are one. -/
def same : Value → Value → Bool
  | null, null => true
  | bool a, bool b => a == b
  | int a, int b => a == b
  | double a, double b => a.sameNumber b
  | text a, text b => a == b
  | blob a, blob b => a == b
  | timestamp a, timestamp b => a == b
  | enum a, enum b => a == b
  | type a, type b => a == b
  | list a, list b => sameItems a b
  | set a, set b => sameItems a b
  | map a, map b => sameEntries a b
  | _, _ => false

def sameItems : List Value → List Value → Bool
  | [], [] => true
  | a :: as, b :: bs => same a b && sameItems as bs
  | _, _ => false

def sameEntries : List (Value × Value) → List (Value × Value) → Bool
  | [], [] => true
  | (k, v) :: as, (l, w) :: bs => same k l && same v w && sameEntries as bs
  | _, _ => false

end

mutual

/-- The order that sets and map keys are normalized by: rank first, then content. An integer meets
a double as the nearest double, and doubles follow their total order. -/
def canonicalCompare : Value → Value → Ordering
  | bool a, bool b => compare a b
  | int a, int b => compare a b
  | int a, double b => (Double.ofInt64 a).totalCompare b
  | double a, int b => a.totalCompare (Double.ofInt64 b)
  | double a, double b => a.totalCompare b
  | timestamp a, timestamp b => compare a b
  | text a, text b => compare a b
  | blob a, blob b => compare a b
  | enum a, enum b => a.compare b
  | type a, type b => compare a.name b.name
  | list a, list b => canonicalCompareItems a b
  | set a, set b => canonicalCompareItems a b
  | map a, map b => canonicalCompareEntries a b
  | a, b => compare a.rank b.rank

def canonicalCompareItems : List Value → List Value → Ordering
  | [], [] => .eq
  | [], _ :: _ => .lt
  | _ :: _, [] => .gt
  | a :: as, b :: bs => (canonicalCompare a b).then (canonicalCompareItems as bs)

def canonicalCompareEntries : List (Value × Value) → List (Value × Value) → Ordering
  | [], [] => .eq
  | [], _ :: _ => .lt
  | _ :: _, [] => .gt
  | (k, v) :: as, (l, w) :: bs =>
    ((canonicalCompare k l).then (canonicalCompare v w)).then (canonicalCompareEntries as bs)

end

/-- The order of range tests, defined between values of one kind and between numbers. -/
def strictCompare : Value → Value → Option Ordering
  | bool a, bool b => some (compare a b)
  | int a, int b => some (compare a b)
  | timestamp a, timestamp b => some (compare a b)
  | double a, double b => a.numericCompare b
  | int a, double b => (Double.ofInt64 a).numericCompare b
  | double a, int b => a.numericCompare (Double.ofInt64 b)
  | text a, text b => some (compare a b)
  | blob a, blob b => some (compare a b)
  | enum a, enum b => some (compare a.label b.label)
  | _, _ => none

mutual

/-- The equality of residual tests: numbers by value, enumeration labels without their path, sets
without their order. Maps and all else compare structurally. -/
def looseEq : Value → Value → Bool
  | int a, double b => (Double.ofInt64 a).sameNumber b
  | double a, int b => a.sameNumber (Double.ofInt64 b)
  | enum a, enum b => a.label == b.label
  | set a, set b => a.length == b.length && looseCovered a b
  | list a, list b => looseEqItems a b
  | a, b => same a b

def looseCovered : List Value → List Value → Bool
  | [], _ => true
  | a :: as, bs => bs.any (fun b => looseEq a b) && looseCovered as bs

def looseEqItems : List Value → List Value → Bool
  | [], [] => true
  | a :: as, b :: bs => looseEq a b && looseEqItems as bs
  | _, _ => false

end

end Value

end WideColumn

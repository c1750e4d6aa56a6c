import WideColumn.Query.Basic

namespace WideColumn

abbrev LeafId := Nat

namespace Predicate

mutual

def leafCount : Predicate → Nat
  | test _ => 1
  | all parts | any parts => leafCountOf parts

def leafCountOf : List Predicate → Nat
  | [] => 0
  | p :: ps => leafCount p + leafCountOf ps

end

mutual

/-- The tests reached through conjunctions alone, the first leaf having position `first`. Leaves
of a disjunction take up positions. -/
def conjunctiveLeaves (first : LeafId) : Predicate → List (LeafId × FieldTest)
  | test t => [(first, t)]
  | all parts => conjunctiveLeavesOf first parts
  | any _ => []

def conjunctiveLeavesOf (first : LeafId) : List Predicate → List (LeafId × FieldTest)
  | [] => []
  | p :: ps => conjunctiveLeaves first p ++ conjunctiveLeavesOf (first + leafCount p) ps

end

mutual

/-- Removes the conjunctive leaves whose position is in `pushed`. A conjunction left empty goes
too; a disjunction stays whole. -/
def prune (pushed : List LeafId) (first : LeafId) : Predicate → Option Predicate
  | test t => if pushed.contains first then none else some (test t)
  | all parts =>
    match pruneAll pushed first parts with
    | [] => none
    | kept => some (all kept)
  | any parts => some (any parts)

def pruneAll (pushed : List LeafId) (first : LeafId) : List Predicate → List Predicate
  | [] => []
  | p :: ps =>
    match prune pushed first p with
    | none => pruneAll pushed (first + leafCount p) ps
    | some q => q :: pruneAll pushed (first + leafCount p) ps

end

end Predicate

namespace Query

def conjunctiveLeaves (q : Query) : List (LeafId × FieldTest) :=
  Predicate.conjunctiveLeavesOf 0 q.filter

def reduce (q : Query) (pushed : List LeafId) : Query :=
  { q with filter := Predicate.pruneAll pushed 0 q.filter }

end Query

end WideColumn

import WideColumn.Text.ClusterData

namespace WideColumn.Text

inductive ClusterClass where
  | carriageReturn
  | lineFeed
  | control
  | extend
  | joiner
  | spacingMark
  | prepend
  | pictograph
  | other
deriving DecidableEq, Repr

namespace ClusterClass

def ofChar (c : Char) : ClusterClass :=
  let n := c.toNat
  if n = 0x0D then .carriageReturn
  else if n = 0x0A then .lineFeed
  else if n < 0x20 || n = 0x7F then .control
  else if n < 0x80 then .other
  else if n = 0x200D then .joiner
  else if inRanges extendRanges c then .extend
  else if inRanges spacingMarkRanges c then .spacingMark
  else if inRanges prependRanges c then .prepend
  else if inRanges controlRanges c then .control
  else if inRanges pictographicRanges c then .pictograph
  else .other

def standsAlone : ClusterClass → Bool
  | .carriageReturn | .lineFeed | .control => true
  | _ => false

def attachesBack : ClusterClass → Bool
  | .extend | .joiner | .spacingMark => true
  | _ => false

end ClusterClass

open ClusterClass

def endsInPictograph (before : List Char) : Bool :=
  (before.dropWhile fun c => ofChar c = .extend).head?.any fun c => ofChar c = .pictograph

def continuesCluster (last : Char) (before : List Char) (next : Char) : Bool :=
  match ofChar last, ofChar next with
  | .carriageReturn, .lineFeed => true
  | a, b =>
    if a.standsAlone || b.standsAlone then false
    else if b.attachesBack || a = .prepend then true
    else a = .joiner && b = .pictograph && endsInPictograph before

def clustersFrom (last : Char) (before : List Char) : List Char → List (List Char)
  | [] => [(last :: before).reverse]
  | next :: rest =>
    if continuesCluster last before next then clustersFrom next (last :: before) rest
    else (last :: before).reverse :: clustersFrom next [] rest

/-- The user-perceived characters of a text. Clusters of uncased, undelimited scripts may come
out finer, since no rule here looks inside them. -/
def clusters : List Char → List (List Char)
  | [] => []
  | c :: rest => clustersFrom c [] rest

end WideColumn.Text

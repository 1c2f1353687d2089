namespace SqlBuilder

inductive FrameUnit
  | rows
  | range
  | groups
deriving DecidableEq, Repr

def FrameUnit.sql : FrameUnit → String
  | .rows => "ROWS"
  | .range => "RANGE"
  | .groups => "GROUPS"

inductive BoundKind
  | unboundedPreceding
  | preceding
  | currentRow
  | following
  | unboundedFollowing
deriving DecidableEq, Repr

namespace BoundKind

def sql : BoundKind → String
  | unboundedPreceding => "UNBOUNDED PRECEDING"
  | preceding => "PRECEDING"
  | currentRow => "CURRENT ROW"
  | following => "FOLLOWING"
  | unboundedFollowing => "UNBOUNDED FOLLOWING"

def takesOffset : BoundKind → Bool
  | preceding | following => true
  | _ => false

end BoundKind

end SqlBuilder

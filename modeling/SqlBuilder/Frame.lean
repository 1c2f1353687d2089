import SqlBuilder.Error

/-!
Window frames. A bound that counts rows carries a non-negative offset and no other bound carries one; the start of a
frame is not after its end. Offsets are written as numbers, so a frame binds no values.
-/

namespace SqlBuilder

structure Bound where
  kind : BoundKind
  offset : Option Int64
deriving DecidableEq, Repr

namespace Bound

def unboundedPreceding : Bound := ⟨.unboundedPreceding, none⟩

def preceding (n : Int64) : Bound := ⟨.preceding, some n⟩

def currentRow : Bound := ⟨.currentRow, none⟩

def following (n : Int64) : Bound := ⟨.following, some n⟩

def unboundedFollowing : Bound := ⟨.unboundedFollowing, none⟩

def validate (b : Bound) : Except BuildError Unit :=
  match b.kind.takesOffset, b.offset with
  | true, none => .error (.configuration (.missingOffset b.kind))
  | true, some n => require (0 ≤ n) (.negativeOffset b.kind n)
  | false, some n => .error (.configuration (.unexpectedOffset b.kind n))
  | false, none => .ok ()

def position (b : Bound) : Int64 :=
  match b.kind with
  | .unboundedPreceding => Int64.minValue
  | .preceding => -(b.offset.getD 0)
  | .currentRow => 0
  | .following => b.offset.getD 0
  | .unboundedFollowing => Int64.maxValue

def text (b : Bound) : String :=
  match b.offset with
  | some n => toString n.toInt ++ " " ++ b.kind.sql
  | none => b.kind.sql

end Bound

/-- A frame without a stated end ends at the current row. -/
structure Frame where
  unit : FrameUnit
  start : Bound
  stop : Option Bound
deriving DecidableEq, Repr

namespace Frame

def rows (start : Bound) : Frame := ⟨.rows, start, none⟩

def rowsBetween (start stop : Bound) : Frame := ⟨.rows, start, some stop⟩

def range (start : Bound) : Frame := ⟨.range, start, none⟩

def rangeBetween (start stop : Bound) : Frame := ⟨.range, start, some stop⟩

def groups (start : Bound) : Frame := ⟨.groups, start, none⟩

def groupsBetween (start stop : Bound) : Frame := ⟨.groups, start, some stop⟩

def hasOffset (f : Frame) : Bool :=
  f.start.offset.isSome || f.stop.any (·.offset.isSome)

def lastBound (f : Frame) : Bound :=
  f.stop.getD .currentRow

def validate (f : Frame) : Except BuildError Unit := do
  f.start.validate
  f.lastBound.validate
  require (f.start.kind ≠ .unboundedFollowing) .startsUnboundedFollowing
  require (f.lastBound.kind ≠ .unboundedPreceding) .endsUnboundedPreceding
  require (f.start.position ≤ f.lastBound.position) .startsAfterEnd

def text (f : Frame) : String :=
  match f.stop with
  | none => f.unit.sql ++ " " ++ f.start.text
  | some stop => f.unit.sql ++ " BETWEEN " ++ f.start.text ++ " AND " ++ stop.text

def render (f : Frame) : Except BuildError String := do
  f.validate
  return f.text

end Frame

end SqlBuilder

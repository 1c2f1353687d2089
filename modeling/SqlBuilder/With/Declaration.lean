import SqlBuilder.Expr.Emit

/-!
Compiled declarations of a `WITH` clause and the clause in front of a base query. The bodies are taken as they are;
the whole is checked for one value per marker.
-/

namespace SqlBuilder

open Emitter

structure Declaration where
  name : String
  columns : List String
  body : Fragment
deriving BEq, Inhabited

namespace Declaration

def validate (earlier : List String) (c : Declaration) : Except BuildError Unit := do
  require (c.name ≠ "") .emptyCteName
  require (!earlier.contains c.name) (.duplicateCte c.name)
  require (!c.body.isBlank) (.emptyCteBody c.name)
  require (c.columns.all (· ≠ "")) (.emptyCteColumn c.name)

def validateAll (earlier : List String) : List Declaration → Except BuildError Unit
  | [] => .ok ()
  | c :: cs => do
    c.validate earlier
    validateAll (earlier ++ [c.name]) cs

def emitColumns (d : Dialect) (columns : List String) : Emitter :=
  if columns.isEmpty then nothing else text " (" >=> joined ", " (columns.map (identifier d)) >=> text ")"

def emit (d : Dialect) (c : Declaration) : Emitter :=
  identifier d c.name >=> emitColumns d c.columns >=> text " AS (" >=> fragment c.body >=> text ")"

end Declaration

def emitWith (d : Dialect) (cs : List Declaration) (base : Fragment) : Emitter :=
  text "WITH " >=> joined ", " (cs.map (·.emit d)) >=> text " " >=> fragment base

def assembleWith (d : Dialect) (cs : List Declaration) (base : Fragment) : Except BuildError Fragment := do
  require (!cs.isEmpty) .noCtes
  require (!base.isBlank) .emptyBase
  Declaration.validateAll [] cs
  aligned (emitWith d cs base).run

end SqlBuilder

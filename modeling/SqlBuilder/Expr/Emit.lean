import SqlBuilder.Expr
import SqlBuilder.Statement

namespace SqlBuilder

open Emitter

def aligned (r : Except BuildError Fragment) : Except BuildError Fragment := do
  let f ← r
  f.checkAligned
  return f

mutual

/-- A list without members stands for a constant, and its operand is not written. -/
def Expr.emit (d : Dialect) : Expr → Emitter
  | .column c => c.emit d
  | .value v => value v
  | .star => text "*"
  | .raw f => check (require (!f.isBlank) .emptyRawExpression) >=> fragment f
  | .function name args =>
    check (require (name ≠ "") .emptyFunctionName) >=> text name >=> text "(" >=> emitList d args >=> text ")"
  | .window call => result (call.compile d)
  | .binary op left right =>
    left.emit d >=> text " " >=> text op.sql >=> text " " >=> right.emit d
  | .not operand => text "NOT " >=> operand.emit d
  | .isNull operand negated => operand.emit d >=> text (if negated then " IS NOT NULL" else " IS NULL")
  | .inList _ [] negated => text (if negated then "1 = 1" else "1 = 0")
  | .inList operand (e :: es) negated =>
    operand.emit d >=> text (if negated then " NOT IN (" else " IN (") >=> emitList d (e :: es) >=> text ")"
  | .nested inner => text "(" >=> inner.emit d >=> text ")"
termination_by structural e => e

def emitList (d : Dialect) : List Expr → Emitter
  | [] => nothing
  | [e] => e.emit d
  | e :: e' :: es => e.emit d >=> text ", " >=> emitList d (e' :: es)
termination_by structural es => es

def WindowCall.compile (d : Dialect) : WindowCall → Except BuildError Fragment
  | ⟨function, args, window⟩ =>
    aligned <| run <|
      check (require (function.accepts args.length) (.wrongArity function args.length)) >=>
        text function.sql >=> text "(" >=> emitList d args >=> text ") OVER (" >=> window.emit d >=> text ")"
termination_by structural call => call

end

def Expr.compile (d : Dialect) (e : Expr) : Except BuildError Fragment :=
  (e.emit d).run

def Projection.emitName (d : Dialect) : Option String → Emitter
  | none => nothing
  | some name => check (require (name ≠ "") .emptyAlias) >=> text " AS " >=> identifier d name

def Projection.emit (d : Dialect) (p : Projection) : Emitter :=
  p.expr.emit d >=> emitName d p.name

theorem emitList_eq_joined (d : Dialect) (es : List Expr) : emitList d es = joined ", " (es.map (·.emit d)) := by
  induction es with
  | nil => rfl
  | cons e es ih =>
    cases es with
    | nil => rfl
    | cons e' es => simp [emitList, joined, ih]

mutual

theorem Expr.appends_emit (d : Dialect) : ∀ e : Expr, (e.emit d).Appends
  | .column c => c.appends_emit d
  | .value v => appends_value v
  | .star => appends_text "*"
  | .raw _ => (appends_check _).andThen (appends_result _)
  | .function _ args =>
    (appends_check _).andThen <| (appends_text _).andThen <| (appends_text _).andThen <|
      (appends_emitList d args).andThen (appends_text _)
  | .window _ => appends_result _
  | .binary _ left right =>
    (Expr.appends_emit d left).andThen <| (appends_text _).andThen <| (appends_text _).andThen <|
      (appends_text _).andThen (Expr.appends_emit d right)
  | .not operand => (appends_text _).andThen (Expr.appends_emit d operand)
  | .isNull operand _ => (Expr.appends_emit d operand).andThen (appends_text _)
  | .inList _ [] _ => appends_text _
  | .inList operand (e :: es) _ =>
    (Expr.appends_emit d operand).andThen <| (appends_text _).andThen <|
      (appends_emitList d (e :: es)).andThen (appends_text _)
  | .nested inner => (appends_text _).andThen <| (Expr.appends_emit d inner).andThen (appends_text _)
termination_by structural e => e

theorem appends_emitList (d : Dialect) : ∀ es : List Expr, (emitList d es).Appends
  | [] => appends_nothing
  | [e] => Expr.appends_emit d e
  | e :: e' :: es =>
    (Expr.appends_emit d e).andThen <| (appends_text _).andThen (appends_emitList d (e' :: es))
termination_by structural es => es

end

theorem Projection.appends_emitName (d : Dialect) : ∀ name : Option String, (emitName d name).Appends
  | none => appends_nothing
  | some name => (appends_check _).andThen ((appends_text _).andThen (appends_identifier d name))

theorem Projection.appends_emit (d : Dialect) (p : Projection) : (p.emit d).Appends :=
  (p.expr.appends_emit d).andThen (appends_emitName d p.name)

end SqlBuilder

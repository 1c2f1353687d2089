import SqlBuilder.Expr

/-!
Building expressions from left to right. A disjunction is put in parentheses, so that it can be joined by `AND`;
nothing else is.
-/

namespace SqlBuilder

namespace Expr

def combine (op : Operator) (left right : Expr) : Expr :=
  match op with
  | .or => nested (binary .or left right)
  | op => binary op left right

def among (operand : Expr) (values : List Value) (negated : Bool) : Expr :=
  inList operand (values.map value) negated

end Expr

inductive ExprStep
  | combine (op : Operator) (right : Expr)
  | not
  | isNull (negated : Bool)
  | among (values : List Value) (negated : Bool)

def Expr.step (e : Expr) : ExprStep → Expr
  | .combine op right => Expr.combine op e right
  | .not => Expr.not e
  | .isNull negated => Expr.isNull e negated
  | .among values negated => Expr.among e values negated

def Expr.build (e : Expr) (steps : List ExprStep) : Expr :=
  steps.foldl Expr.step e

end SqlBuilder

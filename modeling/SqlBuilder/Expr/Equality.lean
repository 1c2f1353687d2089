import SqlBuilder.Expr

/-!
Equality of expressions, part by part. Floats compare as numbers, so an expression with a `NaN` differs from itself.
-/

namespace SqlBuilder

mutual

def Expr.same : Expr → Expr → Bool
  | .column c, .column c' => c == c'
  | .value v, .value v' => v == v'
  | .star, .star => true
  | .raw f, .raw f' => f == f'
  | .function name args, .function name' args' => name == name' && sameList args args'
  | .window call, .window call' => call.same call'
  | .binary op left right, .binary op' left' right' => op == op' && left.same left' && right.same right'
  | .not operand, .not operand' => operand.same operand'
  | .isNull operand negated, .isNull operand' negated' => operand.same operand' && negated == negated'
  | .inList operand list negated, .inList operand' list' negated' =>
    operand.same operand' && sameList list list' && negated == negated'
  | .nested inner, .nested inner' => inner.same inner'
  | _, _ => false
termination_by structural e => e

def sameList : List Expr → List Expr → Bool
  | [], [] => true
  | e :: es, e' :: es' => e.same e' && sameList es es'
  | _, _ => false
termination_by structural es => es

def WindowCall.same : WindowCall → WindowCall → Bool
  | ⟨function, args, window⟩, call' =>
    function == call'.function && sameList args call'.args && window == call'.window
termination_by structural call => call

end

instance : BEq Expr := ⟨Expr.same⟩

instance : BEq WindowCall := ⟨WindowCall.same⟩

instance : BEq Projection := ⟨fun i j => i.expr == j.expr && i.name == j.name⟩

end SqlBuilder

import SqlBuilder.Window

namespace SqlBuilder

inductive Operator
  | eq
  | notEq
  | lt
  | ltEq
  | gt
  | gtEq
  | like
  | and
  | or
deriving DecidableEq, Repr

def Operator.sql : Operator → String
  | .eq => "="
  | .notEq => "<>"
  | .lt => "<"
  | .ltEq => "<="
  | .gt => ">"
  | .gtEq => ">="
  | .like => "LIKE"
  | .and => "AND"
  | .or => "OR"

mutual

inductive Expr
  | column (column : Column)
  | value (value : Value)
  | star
  | raw (fragment : Fragment)
  | function (name : String) (args : List Expr)
  | window (call : WindowCall)
  | binary (op : Operator) (left right : Expr)
  | not (operand : Expr)
  | isNull (operand : Expr) (negated : Bool)
  | inList (operand : Expr) (list : List Expr) (negated : Bool)
  | nested (inner : Expr)

structure WindowCall where
  function : WindowFunction
  args : List Expr
  window : Window

end

instance : Inhabited Expr := ⟨.star⟩

structure Projection where
  expr : Expr
  name : Option String

def Expr.item (e : Expr) : Projection := ⟨e, none⟩

def Expr.named (e : Expr) (name : String) : Projection := ⟨e, some name⟩

end SqlBuilder

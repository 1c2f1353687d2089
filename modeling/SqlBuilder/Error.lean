import SqlBuilder.Frame.Keyword
import SqlBuilder.Window.Function

namespace SqlBuilder

inductive PathRole
  | qualifier
  | table
deriving DecidableEq, Repr

def PathRole.text : PathRole → String
  | .qualifier => "table qualifier"
  | .table => "table"

inductive Fault
  | emptyColumnName
  | emptyPathPart (role : PathRole) (path : String)
  | emptyRawExpression
  | emptyFunctionName
  | emptyAlias
  | missingOffset (kind : BoundKind)
  | negativeOffset (kind : BoundKind) (offset : Int64)
  | unexpectedOffset (kind : BoundKind) (offset : Int64)
  | startsUnboundedFollowing
  | endsUnboundedPreceding
  | startsAfterEnd
  | wrongArity (function : WindowFunction) (got : Nat)
  | rangeOrdering (got : Nat)
  | groupsOrdering
  | emptySourceName
  | emptyRawQuery
  | noCtes
  | emptyBase
  | emptyCteName
  | duplicateCte (name : String)
  | emptyCteBody (name : String)
  | emptyCteColumn (name : String)
  | undeclaredCte (name : String)
deriving DecidableEq

def Fault.message : Fault → String
  | emptyColumnName => "column name must not be empty"
  | emptyPathPart role path => role.text ++ " '" ++ path ++ "' has an empty name part"
  | emptyRawExpression => "raw SQL expression is empty"
  | emptyFunctionName => "function name must not be empty"
  | emptyAlias => "column alias must not be empty"
  | missingOffset kind => kind.sql ++ " frame bound requires an offset"
  | negativeOffset kind n => "frame offset must be non-negative, got " ++ toString n.toInt ++ " " ++ kind.sql
  | unexpectedOffset kind n => kind.sql ++ " frame bound does not take an offset (got " ++ toString n.toInt ++ ")"
  | startsUnboundedFollowing => "window frame cannot start at UNBOUNDED FOLLOWING"
  | endsUnboundedPreceding => "window frame cannot end at UNBOUNDED PRECEDING"
  | startsAfterEnd => "window frame start must not be after frame end"
  | wrongArity f got => f.sql ++ " expects " ++ f.expected ++ " argument(s), got " ++ toString got
  | rangeOrdering got => "RANGE frame with an offset requires exactly one ORDER BY column, got " ++ toString got
  | groupsOrdering => "GROUPS frame requires an ORDER BY clause"
  | emptySourceName => "relation name must not be empty"
  | emptyRawQuery => "raw query SQL is empty"
  | noCtes => "WITH clause requires at least one CTE"
  | emptyBase => "base query of a WITH clause is empty"
  | emptyCteName => "CTE name must not be empty"
  | duplicateCte name => "duplicate CTE name '" ++ name ++ "'"
  | emptyCteBody name => "CTE '" ++ name ++ "' has an empty body"
  | emptyCteColumn name => "CTE '" ++ name ++ "' has an empty column name"
  | undeclaredCte name => "CTE '" ++ name ++ "' is not declared in the WITH clause"

inductive BuildError
  | configuration (fault : Fault)
  | parameterMismatch (markers params : Nat)
  | unterminatedQuote (quote : Char)
  | unterminatedComment
  | unsupportedQuote (quote : Char)
deriving DecidableEq

namespace BuildError

def message : BuildError → String
  | configuration fault => "configuration error: " ++ fault.message
  | parameterMismatch markers params =>
    "compilation error: statement has " ++ toString markers ++ " placeholders but " ++ toString params ++ " parameters"
  | unterminatedQuote quote =>
    "compilation error: unterminated " ++ String.singleton quote ++ " quote in generated SQL"
  | unterminatedComment => "compilation error: unterminated block comment in generated SQL"
  | unsupportedQuote quote => "unsupported quote character " ++ String.singleton quote

def isConfiguration : BuildError → Bool
  | configuration _ => true
  | _ => false

def isCompilation : BuildError → Bool
  | parameterMismatch _ _ | unterminatedQuote _ | unterminatedComment => true
  | _ => false

end BuildError

def require (condition : Bool) (fault : Fault) : Except BuildError Unit :=
  if condition then .ok () else .error (.configuration fault)

@[simp] theorem require_true (fault : Fault) : require true fault = .ok () := rfl

@[simp] theorem require_false (fault : Fault) : require false fault = .error (.configuration fault) := rfl

end SqlBuilder

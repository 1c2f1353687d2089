import SqlBuilder.Expr

namespace SqlBuilder

namespace WindowCall

def ofArgs (function : WindowFunction) (args : List Expr) : WindowCall := ⟨function, args, .empty⟩

def rowNumber : WindowCall := ofArgs .rowNumber []

def rank : WindowCall := ofArgs .rank []

def denseRank : WindowCall := ofArgs .denseRank []

def percentRank : WindowCall := ofArgs .percentRank []

def cumeDist : WindowCall := ofArgs .cumeDist []

def ntile (buckets : Int64) : WindowCall := ofArgs .ntile [.value (.int buckets)]

def lag (c : Column) (n : Int64) : WindowCall := ofArgs .lag [.column c, .value (.int n)]

def lagOr (c : Column) (n : Int64) (default : Value) : WindowCall :=
  ofArgs .lag [.column c, .value (.int n), .value default]

def lead (c : Column) (n : Int64) : WindowCall := ofArgs .lead [.column c, .value (.int n)]

def leadOr (c : Column) (n : Int64) (default : Value) : WindowCall :=
  ofArgs .lead [.column c, .value (.int n), .value default]

def firstValue (c : Column) : WindowCall := ofArgs .firstValue [.column c]

def lastValue (c : Column) : WindowCall := ofArgs .lastValue [.column c]

def nthValue (c : Column) (n : Int64) : WindowCall := ofArgs .nthValue [.column c, .value (.int n)]

def count (c : Column) : WindowCall := ofArgs .count [.column c]

def countAll : WindowCall := ofArgs .count [.star]

def sum (c : Column) : WindowCall := ofArgs .sum [.column c]

def avg (c : Column) : WindowCall := ofArgs .avg [.column c]

def max (c : Column) : WindowCall := ofArgs .max [.column c]

def min (c : Column) : WindowCall := ofArgs .min [.column c]

end WindowCall

inductive CallStep
  | over (window : Window)
  | window (step : WindowStep)
deriving DecidableEq, Repr

def WindowCall.step (w : WindowCall) : CallStep → WindowCall
  | .over window => { w with window }
  | .window step => { w with window := w.window.step step }

def WindowCall.build (w : WindowCall) (steps : List CallStep) : WindowCall :=
  steps.foldl step w

end SqlBuilder

namespace SqlBuilder

inductive WindowFunction
  | rowNumber
  | rank
  | denseRank
  | percentRank
  | cumeDist
  | ntile
  | lag
  | lead
  | firstValue
  | lastValue
  | nthValue
  | count
  | sum
  | avg
  | max
  | min
deriving DecidableEq, Repr

namespace WindowFunction

def sql : WindowFunction → String
  | rowNumber => "ROW_NUMBER"
  | rank => "RANK"
  | denseRank => "DENSE_RANK"
  | percentRank => "PERCENT_RANK"
  | cumeDist => "CUME_DIST"
  | ntile => "NTILE"
  | lag => "LAG"
  | lead => "LEAD"
  | firstValue => "FIRST_VALUE"
  | lastValue => "LAST_VALUE"
  | nthValue => "NTH_VALUE"
  | count => "COUNT"
  | sum => "SUM"
  | avg => "AVG"
  | max => "MAX"
  | min => "MIN"

def arity : WindowFunction → Nat × Nat
  | rowNumber | rank | denseRank | percentRank | cumeDist => (0, 0)
  | ntile | firstValue | lastValue | count | sum | avg | max | min => (1, 1)
  | nthValue => (2, 2)
  | lag | lead => (1, 3)

def accepts (f : WindowFunction) (n : Nat) : Bool :=
  f.arity.1 ≤ n && n ≤ f.arity.2

def expected (f : WindowFunction) : String :=
  let (least, greatest) := f.arity
  if least = greatest then toString least else toString least ++ " to " ++ toString greatest

def isRanking : WindowFunction → Bool
  | rowNumber | rank | denseRank | percentRank | cumeDist | ntile => true
  | _ => false

def isAggregate : WindowFunction → Bool
  | count | sum | avg | max | min => true
  | _ => false

end WindowFunction

end SqlBuilder

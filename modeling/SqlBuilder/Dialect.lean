namespace SqlBuilder

inductive PlaceholderStyle
  | question
  | numbered
deriving DecidableEq, Repr

inductive QuotePolicy
  | always
  | whenNeeded
deriving DecidableEq, Repr

structure Dialect where
  quote : Char
  quoting : QuotePolicy
  placeholders : PlaceholderStyle
deriving DecidableEq, Repr

namespace Dialect

def generic : Dialect := ⟨'"', .whenNeeded, .question⟩

def postgres : Dialect := { generic with placeholders := .numbered }

def mysql : Dialect := { generic with quote := '\x60' }

def sqlite : Dialect := generic

instance : Inhabited Dialect := ⟨generic⟩

end Dialect

end SqlBuilder

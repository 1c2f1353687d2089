import SqlBuilder.Dialect
import SqlBuilder.Error
import SqlBuilder.Identifier.Quoted
import SqlBuilder.Identifier.Reserved

namespace SqlBuilder

namespace Identifier

def isBareStart (c : Char) : Bool :=
  c.isLower || c = '_'

def isBareRest (c : Char) : Bool :=
  isBareStart c || c.isDigit

def isPlain : List Char → Bool
  | [] => false
  | c :: cs => isBareStart c && cs.all isBareRest

def isBare (name : String) : Bool :=
  isPlain name.toList && !isReserved name

/-- A name between brackets is written as it is; the three quote characters are escaped inside. -/
def quote (q : Char) (name : String) : Except BuildError String :=
  match q with
  | '[' => .ok ("[" ++ name ++ "]")
  | '"' | '\'' | '\x60' => .ok (String.ofList (enclose q name.toList))
  | _ => .error (.unsupportedQuote q)

end Identifier

def Dialect.identifier (d : Dialect) (name : String) : Except BuildError String :=
  if d.quoting = .whenNeeded ∧ Identifier.isBare name then .ok name
  else Identifier.quote d.quote name

end SqlBuilder

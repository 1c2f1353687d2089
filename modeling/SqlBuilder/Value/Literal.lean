import SqlBuilder.Decimal.Double
import SqlBuilder.Value

/-! Values as literals, for display only: a statement never contains them. -/

namespace SqlBuilder.Value

def doubleQuotes (cs : List Char) : List Char :=
  cs.flatMap fun c => if c = '\'' then [c, c] else [c]

def hexDigit (n : Nat) : Char :=
  (Nat.digitChar n).toUpper

def hexByte (b : UInt8) : List Char :=
  [hexDigit (b.toNat / 16), hexDigit (b.toNat % 16)]

def literal : Value → String
  | .null => "NULL"
  | .bool b => if b then "TRUE" else "FALSE"
  | .int n => toString n.toInt
  | .float x => (Decimal.Double.ofBits x.toBits.toNat).text
  | .text s => String.ofList ('\'' :: doubleQuotes s.toList ++ ['\''])
  | .bytes bs => String.ofList ('X' :: '\'' :: bs.flatMap hexByte ++ ['\''])

end SqlBuilder.Value

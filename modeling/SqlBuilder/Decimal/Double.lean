import SqlBuilder.Decimal

/-!
Decimal text of double-precision floats: the fewest digits that read back as the same float, nearest to it among
those, always in positional notation.
-/

namespace SqlBuilder.Decimal

inductive Double
  | finite (negative : Bool) (mantissa exponent : Nat)
  | infinite (negative : Bool)
  | nan

namespace Double

def ofBits (bits : Nat) : Double :=
  let negative := bits / Nat.pow 2 63 % 2 = 1
  let exponent := bits / Nat.pow 2 52 % Nat.pow 2 11
  let fraction := bits % Nat.pow 2 52
  if exponent = 2047 then if fraction = 0 then .infinite negative else .nan
  else if exponent = 0 then .finite negative fraction 1
  else .finite negative (Nat.pow 2 52 + fraction) exponent

/--
The reals that round to `mantissa * 2 ^ (exponent - 1075)`, in quarters of its last place. The gap below a power of
two is half as wide, and the ends round to the float itself when its mantissa is even.
-/
def interval (mantissa exponent : Nat) : Interval :=
  let gap := if mantissa = Nat.pow 2 52 ∧ 1 < exponent then 1 else 2
  let unit := Nat.pow 2 (exponent - 1077)
  ⟨(4 * mantissa - gap) * unit, 4 * mantissa * unit, (4 * mantissa + 2) * unit,
    Nat.pow 2 (1077 - exponent), mantissa % 2 = 0⟩

/-- The grids from `10 ^ 309` down to `10 ^ (-324)`: every interval of a positive float meets one of them. -/
def shortest (mantissa exponent : Nat) : Decimal :=
  ((interval mantissa exponent).shortest? 309 634).getD ⟨0, 0⟩

def magnitude (mantissa exponent : Nat) : String :=
  if mantissa = 0 then "0" else (shortest mantissa exponent).positional

def signed (negative : Bool) (text : String) : String :=
  if negative then "-" ++ text else text

def text : Double → String
  | .finite negative mantissa exponent => signed negative (magnitude mantissa exponent)
  | .infinite negative => signed negative "inf"
  | .nan => "NaN"

end Double

end SqlBuilder.Decimal

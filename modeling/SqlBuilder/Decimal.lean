/-!
Decimal numbers and the shortest decimal in an interval. All arithmetic is exact: an interval of positive
rationals is given by numerators over one denominator, a grid by a power of ten.
-/

namespace SqlBuilder

structure Decimal where
  digits : Nat
  exponent : Int
deriving DecidableEq, Repr

namespace Decimal

/-- The rationals between `low / scale` and `high / scale` around `mid / scale`, ends included when `closed`. -/
structure Interval where
  low : Nat
  mid : Nat
  high : Nat
  scale : Nat
  closed : Bool

def powerOfTen (e : Int) : Nat × Nat :=
  (Nat.pow 10 e.toNat, Nat.pow 10 (-e).toNat)

def Interval.contains (i : Interval) (d : Decimal) : Bool :=
  let (num, den) := powerOfTen d.exponent
  let point := d.digits * num * i.scale
  if i.closed then i.low * den ≤ point && point ≤ i.high * den
  else i.low * den < point && point < i.high * den

def Interval.neighbours (i : Interval) (e : Int) : Decimal × Decimal :=
  let (num, den) := powerOfTen e
  let below := i.mid * den / (num * i.scale)
  (⟨below, e⟩, ⟨below + 1, e⟩)

def Interval.lowerNearer (i : Interval) (e : Int) : Bool :=
  let (num, den) := powerOfTen e
  let rest := i.mid * den % (num * i.scale)
  2 * rest < num * i.scale

def Interval.nearest? (i : Interval) (e : Int) : Option Decimal :=
  let (below, above) := i.neighbours e
  match i.contains below, i.contains above with
  | true, true => some (if i.lowerNearer e then below else above)
  | true, false => some below
  | false, true => some above
  | false, false => none

def Interval.shortest? (i : Interval) (top : Int) : Nat → Option Decimal
  | 0 => none
  | fuel + 1 => (i.nearest? top).or (i.shortest? (top - 1) fuel)

def dropTrailingZeros (cs : List Char) : List Char :=
  (cs.reverse.dropWhile (· = '0')).reverse

def positional (d : Decimal) : String :=
  let (num, den) := powerOfTen d.exponent
  let whole := Nat.toDigits 10 (d.digits * num / den)
  let width := (-d.exponent).toNat
  let rest := Nat.toDigits 10 (d.digits * num % den)
  let fraction := dropTrailingZeros (List.replicate (width - rest.length) '0' ++ rest)
  String.ofList (if fraction.isEmpty then whole else whole ++ '.' :: fraction)

end Decimal

end SqlBuilder

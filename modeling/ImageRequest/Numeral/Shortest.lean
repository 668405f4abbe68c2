/-!
# Shortest decimal digits of a double

A finite double is `mantissa · 2 ^ exponent`, and a decimal number reads back as that double when it
lies in the interval of numbers that round to it. `Shortest.ofFloat` gives the fewest digits that
read back, and of those the digits nearest to the double.

For each number of digits only the two neighbours of the double on the decimal grid of that
precision have to be tested: when any number of the grid lies in the interval, one of them does.
All comparisons are between natural numbers.
-/

namespace ImageRequest.Numeral

/-- The magnitude `mantissa · 2 ^ exponent` of a double. The spacing below a power of two is half of
the spacing above it; `narrow` marks those magnitudes. -/
structure Binary where
  mantissa : Nat
  exponent : Int
  narrow : Bool
deriving Repr, DecidableEq

/-- The number `2 ^ 52`: a double has fifty-two bits of fraction, then eleven of exponent and one of
sign. -/
def Binary.unit : Nat := 4503599627370496

/-- The magnitude of a finite double. -/
def Binary.ofFloat (x : Float) : Binary :=
  let bits := x.toBits.toNat
  let fraction := bits % unit
  let biased : Nat := bits / unit % 2048
  if biased = 0 then { mantissa := fraction, exponent := -1074, narrow := false }
  else
    { mantissa := fraction + unit
      exponent := (biased : Int) - 1075
      narrow := fraction = 0 && 1 < biased }

namespace Binary

/-- How many digits stand before the point when the magnitude is written without an exponent; for a
magnitude below one tenth, the negated number of zeros after the point. -/
def order (b : Binary) : Int :=
  let scaled :=
    b.mantissa * Nat.pow 10 400 * Nat.pow 2 b.exponent.toNat / Nat.pow 2 (-b.exponent).toNat
  (Nat.toDigits 10 scaled).length - 400

/-- A multiple of a quarter of the unit in the last place, on a scale shared with `decimal`. -/
def quarters (b : Binary) (k : Int) (n : Nat) : Nat :=
  n * Nat.pow 2 (b.exponent - 2).toNat * Nat.pow 10 (-k).toNat

/-- The decimal number `n · 10 ^ k`, on a scale shared with `quarters`. -/
def decimal (b : Binary) (k : Int) (n : Nat) : Nat :=
  n * Nat.pow 2 (2 - b.exponent).toNat * Nat.pow 10 k.toNat

/-- Whether the decimal number `n · 10 ^ k` rounds to the magnitude. The ends of the interval do so
when the mantissa is even. -/
def readsBack (b : Binary) (k : Int) (n : Nat) : Bool :=
  let low := b.quarters k (4 * b.mantissa - (if b.narrow then 1 else 2))
  let high := b.quarters k (4 * b.mantissa + 2)
  let value := b.decimal k n
  if b.mantissa % 2 = 0 then low ≤ value && value ≤ high else low < value && value < high

/-- The better of the two neighbours of the magnitude among the multiples of `10 ^ k` when one of
them reads back: the nearer one if both do, the even one if both are equally near. -/
def neighbour? (b : Binary) (k : Int) : Option Nat :=
  let value := b.quarters k (4 * b.mantissa)
  let below := value / b.decimal k 1
  match b.readsBack k below, b.readsBack k (below + 1) with
  | false, false => none
  | true, false => some below
  | false, true => some (below + 1)
  | true, true =>
    match compare (2 * value) (b.decimal k (2 * below + 1)) with
    | .lt => some below
    | .gt => some (below + 1)
    | .eq => some (if below % 2 = 0 then below else below + 1)

end Binary

/-- The magnitude `0.d₁d₂… · 10 ^ order`, with no zero at the end of the digits. -/
structure Shortest where
  digits : List Char
  order : Int
deriving Repr, DecidableEq

namespace Shortest

/-- Drop the zeros at the end of `n · 10 ^ k` and place its point. -/
def ofMultiple (n : Nat) (k : Int) : Shortest :=
  let digits := Nat.toDigits 10 n
  { digits := (digits.reverse.dropWhile (· == '0')).reverse, order := digits.length + k }

/-- The fewest digits that read back as a finite double other than zero. Seventeen digits always
suffice. -/
def ofFloat (x : Float) : Shortest :=
  let b := Binary.ofFloat x
  let shortest? := (List.range 17).findSome? fun (n : Nat) =>
    let k := b.order - (n + 1 : Nat)
    (b.neighbour? k).map (ofMultiple · k)
  shortest?.getD (ofMultiple 0 0)

end Shortest

/-- Where a decimal text stops being positional and how its exponent is written. -/
structure Layout where
  /-- Least order that is written without an exponent. -/
  leastOrder : Int
  /-- Greatest order that is written without an exponent. -/
  greatestOrder : Int
  /-- Sign of an exponent that is not negative. -/
  plus : String
deriving Repr

namespace Layout

/-- The digits with a point and no exponent, at least one digit on each side of the point. -/
def positional (s : Shortest) : List Char :=
  if s.order ≤ 0 then ['0', '.'] ++ List.replicate (-s.order).toNat '0' ++ s.digits
  else
    let whole := s.order.toNat
    let fraction := s.digits.drop whole
    s.digits.take whole ++ List.replicate (whole - s.digits.length) '0' ++ ['.'] ++
      (if fraction.isEmpty then ['0'] else fraction)

/-- The digits with a point after the first one, no point if there is only one, and an exponent. -/
def scientific (layout : Layout) (s : Shortest) : List Char :=
  let power := s.order - 1
  let point := if s.digits.length ≤ 1 then [] else ['.']
  let mark := if power < 0 then "-" else layout.plus
  s.digits.take 1 ++ point ++ s.digits.drop 1 ++ ['e'] ++ mark.toList ++
    Nat.toDigits 10 power.natAbs

/-- Whether the bit for the sign of a double is set. -/
def isNegative (x : Float) : Bool :=
  2048 ≤ x.toBits.toNat / Binary.unit

/-- The text of a finite double. -/
def render (layout : Layout) (x : Float) : String :=
  let mark := if isNegative x then ['-'] else []
  let body :=
    if x == 0.0 then "0.0".toList
    else
      let s := Shortest.ofFloat x
      if layout.leastOrder ≤ s.order && s.order ≤ layout.greatestOrder then positional s
      else layout.scientific s
  String.ofList (mark ++ body)

end Layout

end ImageRequest.Numeral

import ImageRequest.Numeral.Integer

/-!
# Decimal numerals

A decimal numeral is an optional sign, digits with at most one point among or around them, and an
optional exponent. It denotes a rational number, and `Decimal.toFloat?` gives the double nearest
to it, a tie going to the even one. A numeral whose nearest double would be infinite has none.
-/

namespace ImageRequest.Numeral

/-- The number `± digits · 10 ^ exponent`. -/
structure Decimal where
  negative : Bool
  digits : Nat
  exponent : Int
deriving Repr, DecidableEq

namespace Decimal

/-- Whether a minus sign stands in front, and what follows the sign. -/
def sign : List Char → Bool × List Char
  | '-' :: rest => (true, rest)
  | '+' :: rest => (false, rest)
  | rest => (false, rest)

/-- The digits after a point, if one stands in front, and what follows them. -/
def fraction : List Char → List Char × List Char
  | '.' :: rest => rest.span Char.isDigit
  | rest => ([], rest)

/-- The exponent written at the end of a numeral; nothing else may follow. -/
def power? : List Char → Option Int
  | [] => some 0
  | mark :: rest => if mark == 'e' || mark == 'E' then int? rest else none

/-- Read a decimal numeral. -/
def ofChars? (text : List Char) : Option Decimal :=
  let (negative, body) := sign text
  let (whole, rest) := body.span Char.isDigit
  let (part, rest) := fraction rest
  if whole.isEmpty && part.isEmpty then none
  else (power? rest).map fun power =>
    { negative, digits := valueFrom 0 (whole ++ part), exponent := power - part.length }

/-- How many digits stand before the point when the number is written without an exponent; for a
number below one tenth, the negated number of zeros after the point. -/
def order (d : Decimal) : Int :=
  (Nat.toDigits 10 d.digits).length + d.exponent

/-- The double nearest to the absolute value. Beyond the orders given here the nearest double is
infinite or zero, whatever the digits are. -/
def magnitude? (d : Decimal) : Option Float :=
  if d.digits = 0 || d.order < -330 then some 0.0
  else if 310 < d.order then none
  else some (Float.ofScientific d.digits (d.exponent < 0) d.exponent.natAbs)

/-- The finite double nearest to the number. -/
def toFloat? (d : Decimal) : Option Float :=
  (d.magnitude?.map fun x => if d.negative then -x else x).filter Float.isFinite

end Decimal

/-- Read a decimal numeral as the finite double nearest to it. -/
def float? (token : String) : Option Float :=
  (Decimal.ofChars? token.toList).bind Decimal.toFloat?

/-- A double that is read is finite. -/
theorem isFinite_of_float? {token : String} {x : Float} (h : float? token = some x) :
    x.isFinite = true := by
  obtain ⟨d, -, hd⟩ := Option.bind_eq_some_iff.1 h
  exact (Option.filter_eq_some_iff.1 hd).2

end ImageRequest.Numeral

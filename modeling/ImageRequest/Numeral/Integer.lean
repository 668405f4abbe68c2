/-!
# Integer numerals

A natural numeral is an optional plus sign followed by at least one decimal digit; an integer
numeral may have a minus sign instead. Any number of leading zeros is allowed, only the ten ASCII
digits count as digits, and a numeral is read as its exact value or refused when that value lies
outside the given range.
-/

namespace ImageRequest.Numeral

/-- The value of a decimal digit. -/
def digitValue (c : Char) : Nat :=
  c.toNat - '0'.toNat

/-- The value of a sequence of decimal digits, continuing the value read so far. -/
def valueFrom (value : Nat) (digits : List Char) : Nat :=
  digits.foldl (fun value c => value * 10 + digitValue c) value

/-- The value of at least one decimal digit and nothing else. -/
def unsigned? (text : List Char) : Option Nat :=
  if !text.isEmpty && text.all Char.isDigit then some (valueFrom 0 text) else none

/-- Read a natural numeral. -/
def nat? : List Char → Option Nat
  | '+' :: digits => unsigned? digits
  | digits => unsigned? digits

/-- Read an integer numeral. -/
def int? : List Char → Option Int
  | '-' :: digits => (unsigned? digits).map fun n => -(n : Int)
  | text => (nat? text).map Int.ofNat

/-- Read a natural numeral whose value is at most `bound`. -/
def natUpTo? (bound : Nat) (token : String) : Option Nat :=
  (nat? token.toList).filter (· ≤ bound)

/-- Read an integer numeral whose value lies between `low` and `high`. -/
def intBetween? (low high : Int) (token : String) : Option Int :=
  (int? token.toList).filter fun n => low ≤ n && n ≤ high

/-- A numeral that is read has a value within its bound. -/
theorem natUpTo?_le {bound n : Nat} {token : String} (h : natUpTo? bound token = some n) :
    n ≤ bound := by
  have := (Option.filter_eq_some_iff.1 h).2
  simpa using this

end ImageRequest.Numeral

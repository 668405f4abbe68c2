import ImageRequest.Text.Quoted
import ImageRequest.Text.Utf8

/-!
# Hexadecimal digits and byte strings

A byte is written as two hexadecimal digits of either case, the high one first.
-/

namespace ImageRequest.Codec.Hex

/-- The value of a hexadecimal digit. -/
def digit? (c : Char) : Option Nat :=
  let n := c.toNat
  if 0x30 ≤ n && n ≤ 0x39 then some (n - 0x30)
  else if 0x61 ≤ n && n ≤ 0x66 then some (n - 0x61 + 10)
  else if 0x41 ≤ n && n ≤ 0x46 then some (n - 0x41 + 10)
  else none

/-- Why a text is not a hexadecimal byte string. -/
inductive Error where
  /-- The number of bytes of the text is odd. -/
  | oddLength
  /-- A byte of the text is not the code of a digit. -/
  | notDigit (byte : UInt8) (position : Nat)
deriving Repr, DecidableEq

/-- The text of the error. -/
def Error.message : Error → String
  | .oddLength => "Odd number of digits"
  | .notDigit byte position =>
    "Invalid character " ++ Text.quoteChar (Char.ofNat byte.toNat) ++ " at position " ++
      toString position

/-- The value of the digit whose code stands at a position. -/
def digitAt (position : Nat) (byte : UInt8) : Except Error Nat :=
  match digit? (Char.ofNat byte.toNat) with
  | some value => .ok value
  | none => .error (.notDigit byte position)

/-- The bytes written by pairs of digits, the first digit standing at the given position. -/
def decodePairs (position : Nat) : List UInt8 → Except Error (List UInt8)
  | high :: low :: rest => do
    let high ← digitAt position high
    let low ← digitAt (position + 1) low
    let bytes ← decodePairs (position + 2) rest
    return UInt8.ofNat (16 * high + low) :: bytes
  | [_] => .error .oddLength
  | [] => .ok []

/-- Read a hexadecimal byte string. An odd length is reported before any wrong digit. -/
def decode (text : String) : Except Error (List UInt8) :=
  let codes := Text.Utf8.encode text
  if codes.length % 2 = 1 then .error .oddLength else decodePairs 0 codes

end ImageRequest.Codec.Hex

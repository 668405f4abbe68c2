/-!
# Base64 for addresses

Three bytes are written as four digits of six bits. The sixty-four digits are the letters, the
decimal digits, the minus sign and the underscore. A last group of one or two bytes takes two or
three digits, whose last digit has bits to spare; there is no padding.
-/

namespace ImageRequest.Codec.Base64Url

/-- The digits in the order of their values. -/
def digits : List Char :=
  "ABCDEFGHIJKLMNOPQRSTUVWXYZabcdefghijklmnopqrstuvwxyz0123456789-_".toList

/-- The digit with a given value. -/
def digit (value : Nat) : Char :=
  digits.getD (value % 64) 'A'

/-- The value of a digit. -/
def value? (c : Char) : Option Nat :=
  digits.idxOf? c

/-- The digits of a byte string. -/
def encode : List UInt8 → List Char
  | [] => []
  | [a] =>
    let n := a.toNat * 16
    [digit (n / 64), digit n]
  | [a, b] =>
    let n := (a.toNat * 256 + b.toNat) * 4
    [digit (n / 4096), digit (n / 64), digit n]
  | a :: b :: c :: rest =>
    let n := a.toNat * 65536 + b.toNat * 256 + c.toNat
    digit (n / 262144) :: digit (n / 4096) :: digit (n / 64) :: digit n :: encode rest

/-- Whether the bits to spare in the last digit have to be zero. -/
inductive SpareBits where
  | zero
  | any
deriving Repr, DecidableEq

/-- Whether the lowest bits of a value, those below a power of two, are as they have to be. -/
def SpareBits.allows (spare : SpareBits) (value power : Nat) : Bool :=
  match spare with
  | zero => value % power == 0
  | any => true

/-- The bytes written by digits of the given values. -/
def decodeValues (spare : SpareBits) : List Nat → Option (List UInt8)
  | [] => some []
  | [_] => none
  | [a, b] =>
    if spare.allows b 16 then some [UInt8.ofNat ((a * 64 + b) / 16)] else none
  | [a, b, c] =>
    if spare.allows c 4 then
      let n := (a * 4096 + b * 64 + c) / 4
      some [UInt8.ofNat (n / 256), UInt8.ofNat n]
    else none
  | a :: b :: c :: d :: rest =>
    let n := a * 262144 + b * 4096 + c * 64 + d
    (decodeValues spare rest).map fun bytes =>
      UInt8.ofNat (n / 65536) :: UInt8.ofNat (n / 256) :: UInt8.ofNat n :: bytes

/-- The bytes written by a text of digits. -/
def decode (spare : SpareBits) (text : List Char) : Option (List UInt8) :=
  (text.mapM value?).bind (decodeValues spare)

theorem value?_digit {n : Nat} (h : n < 64) : value? (digit n) = some n := by
  revert n
  decide +kernel

end ImageRequest.Codec.Base64Url

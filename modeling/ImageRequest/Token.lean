import ImageRequest.Color
import ImageRequest.ImageFormat
import ImageRequest.Numeral.Decimal
import ImageRequest.Rejection
import ImageRequest.ResizingType

/-!
# Tokens

Each function reads one raw argument as a value of some kind. A token that is no such value is
rejected under the name of the field it was given for; only truth values are never rejected.
-/

namespace ImageRequest.Token

/-- Accept a value that was read, or reject the token for its field. -/
def require {α : Type} (field token : String) : Option α → Except Rejection α
  | some value => .ok value
  | none => .error (.invalidValue field token)

/-- Read a truth value. -/
def bool? (token : String) : Option Bool :=
  if token ∈ ["1", "t", "T", "TRUE", "true", "True"] then some true
  else if token ∈ ["0", "f", "F", "FALSE", "false", "False"] then some false
  else none

/-- Read a truth value, taking a token that is none as false. -/
def bool (token : String) : Bool :=
  (bool? token).getD false

/-- The warning that comes with reading a token as a truth value. -/
def boolWarnings (token : String) : List Warning :=
  match bool? token with
  | some _ => []
  | none => [.notBoolean token]

/-- Read a number of pixels, at most `2 ^ 32 - 1`. -/
def dimension (field token : String) : Except Rejection Nat :=
  require field token (Numeral.natUpTo? 4294967295 token)

/-- Read a number of bytes, at most `2 ^ 64 - 1`. -/
def byteCount (field token : String) : Except Rejection Nat :=
  require field token (Numeral.natUpTo? 18446744073709551615 token)

/-- Read a double that satisfies a condition. -/
def floatWith (condition : Float → Bool) (field token : String) : Except Rejection Float :=
  require field token ((Numeral.float? token).filter condition)

/-- Read a double greater than zero. -/
def positiveFloat (field token : String) : Except Rejection Float :=
  floatWith (fun x => 0.0 < x) field token

/-- Read a double that is zero or greater. -/
def nonNegativeFloat (field token : String) : Except Rejection Float :=
  floatWith (fun x => 0.0 ≤ x) field token

/-- Read a double between zero and one. -/
def unitFloat (field token : String) : Except Rejection Float :=
  floatWith (fun x => 0.0 ≤ x && x ≤ 1.0) field token

/-- Read an integer of 64 bits. -/
def integer (field token : String) : Except Rejection Int :=
  require field token (Numeral.intBetween? (-9223372036854775808) 9223372036854775807 token)

/-- Read an angle, a multiple of ninety degrees in 32 bits. -/
def rotation (token : String) : Except Rejection Int :=
  require "rotation angle" token
    ((Numeral.intBetween? (-2147483648) 2147483647 token).filter (· % 90 = 0))

/-- Read a quality from zero to one hundred. -/
def quality (token : String) : Except Rejection Nat :=
  require "quality" token (Numeral.natUpTo? 100 token)

/-- Read a color channel from zero to 255. -/
def channel (field token : String) : Except Rejection UInt8 :=
  require field token ((Numeral.natUpTo? 255 token).map UInt8.ofNat)

/-- Read a color in hexadecimal digits. -/
def color (field token : String) : Except Rejection Color :=
  require field token (Color.ofHex? token)

/-- Read the name of an image format. -/
def format (token : String) : Except Rejection ImageFormat :=
  match ImageFormat.ofName? token with
  | some format => .ok format
  | none => .error (.unknownFormat token)

/-- Read a resizing type. -/
def resizingType (token : String) : Except Rejection ResizingType :=
  require "resize type" token (ResizingType.ofToken? token)

/-- Read an anchor. -/
def anchor (token : String) : Except Rejection Anchor :=
  require "gravity" token (Anchor.ofToken? token)

end ImageRequest.Token

import ImageRequest.Codec.Hex

/-!
# Colors

A color has three channels of one byte. It is written with six hexadecimal digits, two for each
channel, or with three, each of which stands for a repeated pair.
-/

namespace ImageRequest

/-- A color by its red, green and blue channel. -/
structure Color where
  red : UInt8
  green : UInt8
  blue : UInt8
deriving Repr, DecidableEq

namespace Color

/-- The color with all channels zero. -/
def black : Color := ⟨0, 0, 0⟩

/-- The color with all channels full. -/
def white : Color := ⟨255, 255, 255⟩

/-- The channel written by a high and a low digit. -/
def channel (high low : Nat) : UInt8 :=
  UInt8.ofNat (16 * high + low)

/-- The color written by three or six hexadecimal digits. -/
def ofDigits? : List Nat → Option Color
  | [r, g, b] => some ⟨channel r r, channel g g, channel b b⟩
  | [r₁, r₀, g₁, g₀, b₁, b₀] => some ⟨channel r₁ r₀, channel g₁ g₀, channel b₁ b₀⟩
  | _ => none

/-- Read a color. -/
def ofHex? (text : String) : Option Color :=
  (text.toList.mapM Codec.Hex.digit?).bind ofDigits?

/-- The text of the error for a text that is no color. -/
def notColorMessage (text : String) : String :=
  "Invalid hex color: " ++ text

end Color

end ImageRequest

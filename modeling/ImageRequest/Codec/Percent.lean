import ImageRequest.Codec.Hex

/-!
# Percent escapes

A percent sign before two hexadecimal digits stands for the byte they write. A percent sign that is
not followed by two digits stands for itself.
-/

namespace ImageRequest.Codec.Percent

/-- The code of the percent sign. -/
def mark : UInt8 := 0x25

/-- The byte written by two digits. -/
def byte? (high low : UInt8) : Option UInt8 := do
  let high ← Hex.digit? (Char.ofNat high.toNat)
  let low ← Hex.digit? (Char.ofNat low.toNat)
  return UInt8.ofNat (16 * high + low)

/-- The bytes with every escape replaced by the byte it stands for. -/
def decode : List UInt8 → List UInt8
  | [] => []
  | [first] => [first]
  | [first, second] => [first, second]
  | first :: high :: low :: rest =>
    match if first = mark then byte? high low else none with
    | some byte => byte :: decode rest
    | none => first :: decode (high :: low :: rest)

/-- Escapes do not make a byte string vanish. -/
theorem decode_ne_nil {bytes : List UInt8} (h : bytes ≠ []) : decode bytes ≠ [] := by
  fun_cases decode bytes <;> simp_all

end ImageRequest.Codec.Percent

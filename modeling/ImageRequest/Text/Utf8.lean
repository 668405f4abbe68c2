/-!
# UTF-8

The bytes of a text, and the text of those byte strings that are valid UTF-8.
-/

namespace ImageRequest.Text.Utf8

/-- The bytes of a text. -/
def encode (text : String) : List UInt8 :=
  text.toUTF8.data.toList

/-- The text with the given bytes, if they are valid UTF-8. -/
def decode? (bytes : List UInt8) : Option String :=
  String.fromUTF8? ⟨bytes.toArray⟩

/-- Each text is read back from its bytes. -/
theorem decode?_encode (text : String) : decode? (encode text) = some text := by
  have bytes : (⟨text.toUTF8.data.toList.toArray⟩ : ByteArray) = text.toUTF8 := rfl
  have valid : text.toUTF8.IsValidUTF8 := text.isValidUTF8
  rw [decode?, encode, bytes, String.fromUTF8?, dif_pos valid]
  rfl

/-- A text that is read has the bytes it was read from. -/
theorem encode_of_decode? {bytes : List UInt8} {text : String} (h : decode? bytes = some text) :
    encode text = bytes := by
  rw [decode?, String.fromUTF8?] at h
  split at h
  · cases h; rfl
  · cases h

end ImageRequest.Text.Utf8

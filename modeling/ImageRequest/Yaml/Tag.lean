import ImageRequest.Codec.Hex
import ImageRequest.Yaml.Glyph

/-!
# Tags

A tag says what a node is. It is written with the characters of web addresses, where percent escapes
stand for other bytes. The escapes have to have the form of UTF-8, a first byte and as many later
ones as it calls for, but they need not be UTF-8: overlong forms and surrogates are let through.
That is why a tag is a string of bytes and not a text. A zero byte ends it.
-/

namespace ImageRequest.Yaml

/-- A tag, or a part of one. -/
abbrev Tag := List UInt8

namespace Tag

/-- The code of the exclamation mark. -/
def mark : UInt8 := 0x21

/-- The tag that is an exclamation mark and nothing else. -/
def bare : Tag := [mark]

/-- The tag of a kind of values that every reader knows. -/
def standard (name : String) : Tag :=
  Text.Utf8.encode ("tag:yaml.org,2002:" ++ name)

/-- The name in a tag of one's own, behind its exclamation mark. The mark alone is a name, too; what
is not UTF-8 is none. -/
def localName? : Tag → Option String
  | [] => none
  | first :: name =>
    if first = mark then Text.Utf8.decode? (if name.isEmpty then bare else name) else none

/-! ## Writing -/

/-- Whether a character can stand in a tag. -/
def isChar (c : Char) : Bool :=
  isNameChar c || ";/?:@&=+$.!~*()%".toList.contains c || c == '\x27'

/-- Whether a character can stand in a tag between angle brackets, or in the meaning of a handle. -/
def isAddressChar (c : Char) : Bool :=
  isChar c || [',', '[', ']'].contains c

/-- How many bytes follow the first byte of a character. -/
def followers? (byte : UInt8) : Option Nat :=
  if byte < 0x80 then some 0
  else if byte < 0xC0 then none
  else if byte < 0xE0 then some 1
  else if byte < 0xF0 then some 2
  else if byte < 0xF8 then some 3
  else none

/-- Whether a byte is a later byte of a character. -/
def isFollower (byte : UInt8) : Bool :=
  0x80 ≤ byte && byte < 0xC0

/-- The bytes of a written tag, where some bytes of an escaped character are still missing. -/
def bytes? : Nat → List Char → Option (List UInt8)
  | 0, [] => some []
  | missing, '%' :: high :: low :: rest => do
    let byte := UInt8.ofNat (16 * (← Codec.Hex.digit? high) + (← Codec.Hex.digit? low))
    match missing with
    | 0 => return byte :: (← bytes? (← followers? byte) rest)
    | missing + 1 => if isFollower byte then return byte :: (← bytes? missing rest) else none
  | 0, c :: rest =>
    if c = '%' then none else (bytes? 0 rest).map (UInt8.ofNat c.toNat :: ·)
  | _ + 1, _ => none

/-- A tag as it is written. -/
def ofChars? (written : List Char) : Option Tag :=
  (bytes? 0 written).map fun bytes => bytes.takeWhile (· ≠ 0)

end Tag

end ImageRequest.Yaml

import ImageRequest.Codec.Base64Url
import ImageRequest.Codec.Percent
import ImageRequest.Rejection
import ImageRequest.Text.Split
import ImageRequest.Text.Utf8

/-!
# Sources

The segments of a path behind its directives encode the address of the source image, possibly with
an extension that asks for a format. After the segment `plain` the address is written as it is, with
percent escapes, and the extension follows an at sign. Otherwise the address is written in Base64,
cut into segments anywhere, and the extension follows a point.

Whether there is an address at all is settled on the encoded text, before padding and escapes are
taken away.
-/

namespace ImageRequest

/-- The address of a source image, and the extension written behind it. -/
structure Source where
  url : String
  extension? : Option String
deriving Repr, DecidableEq

namespace Source

/-- The encoded address in front of a mark, and the extension behind it unless it is empty. -/
def splitExtension (mark encoded : String) : Except SourceError (String × Option String) :=
  match Text.split mark encoded with
  | [url] => if url = "" then .error .empty else .ok (url, none)
  | [url, extension] =>
    if url = "" then .error .empty
    else .ok (url, if extension = "" then none else some extension)
  | _ => .error (.severalExtensions encoded)

/-- The address written with percent escapes. -/
def unescape? (text : String) : Option String :=
  Text.Utf8.decode? (Codec.Percent.decode (Text.Utf8.encode text))

/-- The address written in Base64, with or without padding. -/
def unpack? (text : String) : Option String :=
  (Codec.Base64Url.decode .any (Text.dropTrailing '=' text.toList)).bind Text.Utf8.decode?

/-- Read an encoded source with a given mark and a given encoding of addresses. -/
def ofEncoded (baseUrl mark : String) (address? : String → Option String) (encoded : String) :
    Except SourceError Source := do
  let (url, extension?) ← splitExtension mark encoded
  match address? url with
  | none => .error (.undecodable encoded)
  | some address => .ok { url := baseUrl ++ address, extension? }

/-- The segment in front of an address that is written as it is. -/
def plainMarker : String := "plain"

/-- Read a source, and put the base address in front of its address. -/
def decode (baseUrl : String) (segments : List String) : Except SourceError Source :=
  match segments with
  | [] => .error .empty
  | first :: rest =>
    if first = plainMarker then
      if rest.isEmpty then .error .empty
      else ofEncoded baseUrl "@" unescape? ("/".intercalate rest)
    else ofEncoded baseUrl "." unpack? (String.join segments)

end Source

/-- How segments are turned into a source. A decoder may reject them for any reason. -/
abbrev SourceDecoder := List String → Except Rejection Source

/-- The decoder that reads segments in some way and rejects those that cannot be read. -/
def SourceDecoder.ofReading (reading : List String → Except SourceError Source) : SourceDecoder :=
  fun segments => (reading segments).mapError .source

/-- A reading of segments stands for its decoder. -/
instance : Coe (List String → Except SourceError Source) SourceDecoder :=
  ⟨SourceDecoder.ofReading⟩

/-- The decoder for sources behind a base address. -/
def Source.decoder (baseUrl : String) : SourceDecoder :=
  Source.decode baseUrl

/-- The decoder gives what is read. -/
@[simp] theorem Source.decoder_eq_ok_iff {baseUrl : String} {segments : List String}
    {source : Source} :
    decoder baseUrl segments = .ok source ↔ decode baseUrl segments = .ok source := by
  rw [decoder, SourceDecoder.ofReading]
  cases decode baseUrl segments with
  | ok other =>
      constructor <;> intro same <;> cases same <;> rfl
  | error error => exact ⟨nofun, nofun⟩

end ImageRequest

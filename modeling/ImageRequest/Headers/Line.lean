import ImageRequest.Headers
import ImageRequest.Text.Blank
import ImageRequest.Text.Quoted
import ImageRequest.Text.Split

/-!
# Header lines

A header is written on a line as its name, a colon, and its value; blanks around both do not count.
-/

namespace ImageRequest

/-- Why a line is no header. -/
inductive HeaderError where
  | noColon (line : String)
  | invalidName (line : String)
  | invalidValue (line : String)
deriving Repr, DecidableEq

/-- The text of the error, with its cause behind an empty line. -/
def HeaderError.message : HeaderError → String
  | .noColon line => "Header must look like \"Name: value\": " ++ line
  | .invalidName line =>
    "Invalid header name in " ++ Text.quote line ++ "\n\nCaused by:\n    invalid HTTP header name"
  | .invalidValue line =>
    "Invalid header value in " ++ Text.quote line ++
      "\n\nCaused by:\n    failed to parse header value"

namespace Headers

/-- Whether a character can stand in a name. -/
def isNameChar (c : Char) : Bool :=
  c.isAlphanum || "!#$%&\x27*+-.^_\x60|~".toList.contains c

/-- How many characters a name has at most. -/
def maxNameLength : Nat := 65535

/-- Whether a text is the name of a header. -/
def isName (text : String) : Bool :=
  text ≠ "" && text.toList.all isNameChar && text.length ≤ maxNameLength

/-- Whether a text is the value of a header: it may hold any characters but controls. -/
def isValue (text : String) : Bool :=
  text.toList.all fun c => c == '\t' || (0x20 ≤ c.toNat && c.toNat ≠ 0x7F)

/-- Read a line. A wrong name is reported before a wrong value. -/
def ofLine (line : String) : Except HeaderError (String × String) :=
  match Text.splitOnce ':' line with
  | none => .error (.noColon line)
  | some (name, value) =>
    let name := Text.trim name
    let value := Text.trim value
    if !isName name then .error (.invalidName line)
    else if !isValue value then .error (.invalidValue line)
    else .ok (name, value)

/-- Read several lines. -/
def ofLines (lines : List String) : Except HeaderError Headers :=
  lines.mapM ofLine

end Headers

end ImageRequest

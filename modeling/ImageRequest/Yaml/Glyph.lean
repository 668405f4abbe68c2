/-!
# Characters with their places

YAML gives a meaning to indentation, so every character of a text is read together with its line and
its column. The line breaks of different systems are made equal, and a text with characters that
YAML does not allow is no YAML at all.
-/

namespace ImageRequest.Yaml

/-- A character with its place in a text. -/
structure Glyph where
  char : Char
  line : Nat
  column : Nat
  /-- How many bytes stand before it. -/
  index : Nat
deriving Repr, DecidableEq

/-- Whether a text may hold a character. -/
def isAllowed (c : Char) : Bool :=
  let n := c.toNat
  n == 0x09 || n == 0x0A || n == 0x0D || (0x20 ≤ n && n ≤ 0x7E) || n == 0x85 ||
    (0xA0 ≤ n && n ≤ 0xD7FF) || (0xE000 ≤ n && n ≤ 0xFFFD) || 0x10000 ≤ n

/-- Whether a character separates words on a line. -/
def isBlank (c : Char) : Bool :=
  c == ' ' || c == '\t'

/-- Whether a character ends a line. -/
def isBreak (c : Char) : Bool :=
  c == '\n' || c == '\u2028' || c == '\u2029'

/-- Whether a character is a byte order mark. At the beginning of a line it says nothing, but takes
up a column. -/
def isByteOrderMark (c : Char) : Bool :=
  c == '\ufeff'

/-- Whether a character can stand in a name. -/
def isNameChar (c : Char) : Bool :=
  c.isAlphanum || c == '_' || c == '-'

namespace Glyph

/-- The characters of a text from a place on. A carriage return, a line feed, both together and a
next-line character are all one line feed. -/
def ofChars (line column index : Nat) : List Char → List Glyph
  | [] => []
  | '\r' :: '\n' :: rest =>
    { char := '\n', line, column, index } :: ofChars (line + 1) 0 (index + 2) rest
  | c :: rest =>
    if c == '\r' || c == '\n' || c == '\u0085' then
      { char := '\n', line, column, index } :: ofChars (line + 1) 0 (index + c.utf8Size) rest
    else
      { char := c, line, column, index } ::
        if isBreak c then ofChars (line + 1) 0 (index + c.utf8Size) rest
        else ofChars line (column + 1) (index + c.utf8Size) rest

/-- The characters of a text. -/
def ofText? (text : String) : Option (List Glyph) :=
  if text.toList.all isAllowed then some (ofChars 0 0 0 text.toList) else none

end Glyph

/-- Whether a word ends here: at a blank, at a break, or at the end of the text. -/
def endsWord : List Glyph → Bool
  | [] => true
  | g :: _ => isBlank g.char || isBreak g.char

/-- Whether three equal characters that mark the limits of a document stand here on their own. -/
def isDocumentMark (mark : Char) : List Glyph → Bool
  | g₁ :: g₂ :: g₃ :: rest =>
    g₁.column == 0 && g₁.char == mark && g₂.char == mark && g₃.char == mark && endsWord rest
  | _ => false

/-- Whether a limit of a document stands here. -/
def isDocumentLimit (rest : List Glyph) : Bool :=
  isDocumentMark '-' rest || isDocumentMark '.' rest

/-- The white space between two words of a scalar. A single line break between words stands for a
blank; of several, the first one stands for nothing. -/
structure Gap where
  blanks : List Char := []
  /-- The first line break, if it counts, and the later ones. -/
  breaks? : Option (Option Char × List Char) := none

namespace Gap

/-- Whether there is no white space. -/
def isEmpty (gap : Gap) : Bool :=
  gap.blanks.isEmpty && gap.breaks?.isNone

/-- One more blank, which counts only before a line break. -/
def blank (gap : Gap) (c : Char) : Gap :=
  match gap.breaks? with
  | none => { gap with blanks := gap.blanks ++ [c] }
  | some _ => gap

/-- One more line break. -/
def lineBreak (gap : Gap) (c : Char) : Gap :=
  match gap.breaks? with
  | none => { breaks? := some (some c, []) }
  | some (first?, later) => { breaks? := some (first?, later ++ [c]) }

/-- What the white space stands for. -/
def text (gap : Gap) : List Char :=
  match gap.breaks? with
  | none => gap.blanks
  | some (some '\n', []) => [' ']
  | some (some '\n', later) => later
  | some (first?, later) => first?.toList ++ later

end Gap

end ImageRequest.Yaml

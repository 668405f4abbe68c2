import ImageRequest.Text.Unprintable

/-!
# Quoted text

Error texts show arguments between quotation marks, with every character that does not print
replaced by an escape. A list of texts is shown between brackets.
-/

namespace ImageRequest.Text

/-- Whether a number lies in one of the given closed ranges. -/
def inRanges (ranges : List (Nat × Nat)) (n : Nat) : Bool :=
  ranges.any fun (low, high) => low ≤ n && n ≤ high

/-- Whether a character is shown as itself. -/
def isPrintable (c : Char) : Bool :=
  !inRanges unprintable c.toNat

/-- The digits of a number to the base sixteen, in lower case. -/
def hexDigits (n : Nat) : List Char :=
  Nat.toDigits 16 n

/-- How a character is shown inside quotation marks of one kind: the mark itself and the backslash
are escaped, some controls have names, and other characters that do not print are given by number.
-/
def escape (mark c : Char) : List Char :=
  if c == mark then ['\\', mark]
  else match c with
  | '\\' => ['\\', '\\']
  | '\n' => ['\\', 'n']
  | '\r' => ['\\', 'r']
  | '\t' => ['\\', 't']
  | '\x00' => ['\\', '0']
  | c => if isPrintable c then [c] else "\\u\x7b".toList ++ hexDigits c.toNat ++ ['\x7d']

/-- A text between double quotation marks. -/
def quote (text : String) : String :=
  "\"" ++ String.ofList (text.toList.flatMap (escape '\"')) ++ "\""

/-- A character between single quotation marks. -/
def quoteChar (c : Char) : String :=
  "\x27" ++ String.ofList (escape (Char.ofNat 0x27) c) ++ "\x27"

/-- Several texts, each quoted, between brackets. -/
def quoteList (texts : List String) : String :=
  "[" ++ ", ".intercalate (texts.map quote) ++ "]"

end ImageRequest.Text

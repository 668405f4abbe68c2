import ImageRequest.Codec.Hex
import ImageRequest.Yaml.Glyph

/-!
# Scalars

The four ways to write a text: plain, between quotation marks, and as a block of lines that are
taken as they are or folded. Each reader takes the characters from a place on and gives the text
together with the characters behind it.
-/

namespace ImageRequest.Yaml

/-- How a scalar is written. -/
inductive ScalarStyle where
  | plain
  | quoted
  | literal
  | folded
deriving Repr, DecidableEq

namespace Scalar

/-! ## Plain scalars -/

/-- Whether a plain scalar ends here: at a colon before the end of a word, and among brackets also
at a comma or a bracket. -/
def endsPlain (inFlow : Bool) : List Glyph → Bool
  | [] => true
  | g :: rest =>
    (g.char == ':' && endsWord rest) || (inFlow && [',', '[', ']', '\x7b', '\x7d'].contains g.char)

/-- Whether a colon stands here before a character that cannot follow it among brackets. -/
def isMisplacedColon : List Glyph → Bool
  | g :: next :: _ =>
    g.char == ':' && [',', '?', '[', ']', '\x7b', '\x7d'].contains next.char
  | _ => false

/-- Read a plain scalar, after some text, in reverse, and some white space. Its later lines are
indented by at least `indent`. Also tells whether it ended after a line break. -/
def plain? (inFlow : Bool) (indent : Int) (text : List Char) (gap : Gap) :
    List Glyph → Option (String × Bool × List Glyph)
  | [] => some (String.ofList text.reverse, gap.breaks?.isSome, [])
  | g :: rest =>
    if isBlank g.char then
      if gap.breaks?.isSome && g.column < indent && g.char == '\t' then none
      else plain? inFlow indent text (gap.blank g.char) rest
    else if isBreak g.char then plain? inFlow indent text (gap.lineBreak g.char) rest
    else
      let ends := isDocumentLimit (g :: rest) ||
        (!gap.isEmpty && (g.char == '#' || (!inFlow && g.column < indent)))
      if !ends && inFlow && isMisplacedColon (g :: rest) then none
      else if ends || endsPlain inFlow (g :: rest) then
        some (String.ofList text.reverse, gap.breaks?.isSome, g :: rest)
      else plain? inFlow indent (g.char :: (gap.text.reverse ++ text)) {} rest

/-! ## Quoted scalars -/

/-- What the last characters of a quoted scalar began. -/
inductive QuoteState where
  | text
  /-- A single quotation mark, which ends the scalar unless another one follows. -/
  | mark
  /-- A backslash. -/
  | escape
  /-- A number of hexadecimal digits that are still to come, after some that were read. -/
  | digits (missing value : Nat)
deriving Repr, DecidableEq

/-- The character that a letter after a backslash stands for. -/
def escaped? (c : Char) : Option Char :=
  match c with
  | '0' => some '\x00'
  | 'a' => some '\x07'
  | 'b' => some '\x08'
  | 't' => some '\t'
  | '\t' => some '\t'
  | 'n' => some '\n'
  | 'v' => some '\x0b'
  | 'f' => some '\x0c'
  | 'r' => some '\r'
  | 'e' => some '\x1b'
  | ' ' => some ' '
  | '\"' => some '\"'
  | '/' => some '/'
  | '\\' => some '\\'
  | 'N' => some '\u0085'
  | '_' => some '\u00a0'
  | 'L' => some '\u2028'
  | 'P' => some '\u2029'
  | _ => none

/-- How many hexadecimal digits follow a letter after a backslash. -/
def escapeLength? (c : Char) : Option Nat :=
  match c with
  | 'x' => some 2
  | 'u' => some 4
  | 'U' => some 8
  | _ => none

/-- The character with a given number, which must not be a surrogate. -/
def numbered? (n : Nat) : Option Char :=
  if h : n.isValidChar then some (Char.ofNatAux n h) else none

/-- Read a quoted scalar behind its first quotation mark, after some text, in reverse, and some
white space. -/
def quoted? (single : Bool) (text : List Char) (gap : Gap) :
    QuoteState → List Glyph → Option (String × List Glyph)
  | .mark, [] => some (String.ofList text.reverse, [])
  | _, [] => none
  | .mark, g :: rest =>
    if g.char == '\x27' then quoted? single ('\x27' :: text) {} .text rest
    else some (String.ofList text.reverse, g :: rest)
  | .escape, g :: rest =>
    if isBreak g.char then quoted? single text { breaks? := some (none, []) } .text rest
    else
      match escapeLength? g.char with
      | some length => quoted? single text {} (.digits length 0) rest
      | none =>
        match escaped? g.char with
        | some c => quoted? single (c :: text) {} .text rest
        | none => none
  | .digits missing value, g :: rest =>
    match Codec.Hex.digit? g.char with
    | none => none
    | some digit =>
      let value := 16 * value + digit
      if 1 < missing then quoted? single text {} (.digits (missing - 1) value) rest
      else
        match numbered? value with
        | some c => quoted? single (c :: text) {} .text rest
        | none => none
  | .text, g :: rest =>
    if isDocumentLimit (g :: rest) then none
    else if isBlank g.char then quoted? single text (gap.blank g.char) .text rest
    else if isBreak g.char then quoted? single text (gap.lineBreak g.char) .text rest
    else
      let text := gap.text.reverse ++ text
      if single && g.char == '\x27' then quoted? single text {} .mark rest
      else if !single && g.char == '\"' then some (String.ofList text.reverse, rest)
      else if !single && g.char == '\\' then quoted? single text {} .escape rest
      else quoted? single (g.char :: text) {} .text rest

/-! ## Block scalars -/

/-- What becomes of the line breaks at the end of a block. -/
inductive Chomping where
  | strip
  | clip
  | keep
deriving Repr, DecidableEq

/-- The sign that tells what becomes of the last line breaks. -/
def chomping? (c : Char) : Option Chomping :=
  match c with
  | '-' => some .strip
  | '+' => some .keep
  | _ => none

/-- The digit that tells how far a block is indented. -/
def indentation? (c : Char) : Option Nat :=
  if c.isDigit && c != '0' then some (c.toNat - '0'.toNat) else none

/-- The signs behind the mark of a block, in either order, and what follows them. A zero is no
indentation. -/
def blockSigns (rest : List Glyph) : Chomping × Option Nat × List Glyph :=
  match rest with
  | [] => (.clip, none, [])
  | g :: tail =>
    match chomping? g.char, indentation? g.char with
    | some chomping, _ =>
      match tail with
      | [] => (chomping, none, [])
      | h :: tail' =>
        match indentation? h.char with
        | some n => (chomping, some n, tail')
        | none => (chomping, none, tail)
    | none, some n =>
      match tail with
      | [] => (.clip, some n, [])
      | h :: tail' =>
        match chomping? h.char with
        | some chomping => (chomping, some n, tail')
        | none => (.clip, some n, tail)
    | none, none => (.clip, none, rest)

/-- The characters behind the rest of a line that holds at most a comment. -/
def afterHeader? (rest : List Glyph) : Option (List Glyph) :=
  let rest := rest.dropWhile (isBlank ·.char)
  let rest := if rest.head?.any (·.char == '#') then rest.dropWhile (!isBreak ·.char) else rest
  match rest with
  | [] => some []
  | g :: rest => if isBreak g.char then some rest else none

/-- The line breaks of empty lines, the greatest column that their blanks reach, and what follows
them. With an indentation given, only the blanks in front of it are passed over. -/
def emptyLines? (indent? : Option Nat) (breaks : List Char) (reached : Nat) :
    List Glyph → Option (List Char × Nat × List Glyph)
  | [] => some (breaks, reached, [])
  | g :: rest =>
    let inside := indent?.all (g.column < ·)
    if g.char == ' ' && inside then emptyLines? indent? breaks reached rest
    else
      let reached := max reached g.column
      if g.char == '\t' && inside then none
      else if isBreak g.char then emptyLines? indent? (breaks ++ [g.char]) reached rest
      else some (breaks, reached, g :: rest)

/-- The lines of a block: each with the line breaks behind it, and whether it begins with a blank.
-/
structure BlockLine where
  text : List Char
  startsBlank : Bool
  /-- The line break at the end of the line, if there is one. -/
  ending : List Char
  /-- The line breaks of the empty lines behind it. -/
  gap : List Char

/-- Read the lines of a block that are indented as far as its first one. The number bounds the
number of lines. -/
def blockLines? (indent : Nat) : Nat → List Glyph → Option (List BlockLine × List Glyph)
  | 0, rest => some ([], rest)
  | _, [] => some ([], [])
  | fuel + 1, g :: rest =>
    if g.column ≠ indent then some ([], g :: rest)
    else do
      let line := (g :: rest).takeWhile (!isBreak ·.char)
      let behind := (g :: rest).dropWhile (!isBreak ·.char)
      let (gap, _, next) ← emptyLines? (some indent) [] 0 (behind.drop 1)
      let (lines, rest) ← blockLines? indent fuel next
      let line :=
        { text := line.map Glyph.char, startsBlank := isBlank g.char
          ending := (behind.take 1).map Glyph.char, gap : BlockLine }
      return (line :: lines, rest)

/-- The text of folded lines: a line break between two lines that do not begin with a blank stands
for a blank, or for nothing if empty lines follow. -/
def joinLines (isFolded : Bool) (chomping : Chomping) : List BlockLine → List Char
  | [] => []
  | [line] =>
    line.text ++ (if chomping = .strip then [] else line.ending) ++
      (if chomping = .keep then line.gap else [])
  | line :: next :: lines =>
    let folds := isFolded && line.ending == ['\n'] && !line.startsBlank && !next.startsBlank
    let ending :=
      if folds then (if line.gap.isEmpty then [' '] else []) else line.ending
    line.text ++ ending ++ line.gap ++ joinLines isFolded chomping (next :: lines)

/-- Read a block scalar behind its mark. `parent` is the indentation of what holds it. -/
def block? (isFolded : Bool) (parent : Int) (rest : List Glyph) :
    Option (String × List Glyph) := do
  let (chomping, sign?, rest) := blockSigns rest
  let rest ← afterHeader? rest
  let given? := sign?.map fun n => if 0 ≤ parent then parent.toNat + n else n
  let (before, reached, rest) ← emptyLines? given? [] 0 rest
  let indent := given?.getD (max reached (max (parent + 1).toNat 1))
  let (lines, rest) ← blockLines? indent rest.length rest
  let text := match lines with
    | [] => if chomping = .keep then before else []
    | lines => before ++ joinLines isFolded chomping lines
  return (String.ofList text, rest)

end Scalar

end ImageRequest.Yaml

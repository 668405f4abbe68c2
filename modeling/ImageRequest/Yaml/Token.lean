import ImageRequest.Numeral.Integer
import ImageRequest.Yaml.Scalar
import ImageRequest.Yaml.Tag

/-!
# Tokens

The tokens of a YAML text. Besides marks and scalars there are tokens for the structure that only
the indentation shows: the beginning and the end of a block, and the key of a mapping, which is
known to be one only when its colon has been read.

`Token.ofText?` reads the tokens of a text from left to right. Whatever could be the key of a
mapping is remembered together with the number of tokens in front of it, so that the missing tokens
can be put there when the colon comes.
-/

namespace ImageRequest.Yaml

/-- A token of a YAML text. -/
inductive Token where
  | version (major minor : Nat)
  | handle (name : String) (meaning : Tag)
  | documentStart
  | documentEnd
  | blockSequence
  | blockMapping
  | blockEnd
  | openSequence
  | closeSequence
  | openMapping
  | closeMapping
  | dash
  | comma
  | key
  | value
  | alias (name : String)
  | anchor (name : String)
  | tag (handle : String) (suffix : Tag)
  | scalar (style : ScalarStyle) (text : String)
deriving Repr, DecidableEq

/-- Something that may turn out to be the key of a mapping. -/
structure PendingKey where
  /-- Whether it cannot be anything else. -/
  required : Bool
  /-- Number of tokens in front of it. -/
  position : Nat
  line : Nat
  column : Nat
  index : Nat

/-- The tokens read so far and what is known at this point of the text. -/
structure Lexer where
  rest : List Glyph
  tokens : Array Token := #[]
  /-- Indentation of the innermost block. -/
  indent : Int := -1
  /-- Indentations of the blocks around it. -/
  outer : List Int := []
  /-- Possible keys: a place for the block and one for every pair of brackets around this point. -/
  keys : List (Option PendingKey) := [none]
  /-- Whether a key may begin here. -/
  keyAllowed : Bool := true

namespace Lexer

/-- Whether this point is between brackets. -/
def inFlow (s : Lexer) : Bool :=
  1 < s.keys.length

/-- Add a token. -/
def emit (s : Lexer) (token : Token) : Lexer :=
  { s with tokens := s.tokens.push token }

/-- Pass over some characters. -/
def skip (s : Lexer) (count : Nat) : Lexer :=
  { s with rest := s.rest.drop count }

/-- Say whether a key may begin here. -/
def allowKey (s : Lexer) (allowed : Bool) : Lexer :=
  { s with keyAllowed := allowed }

/-- Forget the possible key at this level; a required key must not be forgotten. -/
def dropKey (s : Lexer) : Option Lexer :=
  match s.keys with
  | some key :: keys => if key.required then none else some { s with keys := none :: keys }
  | _ => some s

/-- Remember that a key may begin here. -/
def saveKey (s : Lexer) : Option Lexer :=
  match s.rest.head? with
  | some g =>
    if s.keyAllowed then do
      let s ← s.dropKey
      let key :=
        { required := !s.inFlow && s.indent == g.column, position := s.tokens.size
          line := g.line, column := g.column, index := g.index : PendingKey }
      return { s with keys := some key :: s.keys.tail }
    else some s
  | none => some s

/-- Forget the possible keys that end before this point: a key stands on one line and is not longer
than 1024 bytes. -/
def expireKeys (s : Lexer) : Option Lexer := do
  let g? := s.rest.head?
  let isExpired := fun (key : PendingKey) =>
    g?.all fun g => key.line < g.line || key.index + 1024 < g.index
  if s.keys.any fun key? => key?.any fun key => key.required && isExpired key then none
  else some { s with keys := s.keys.map fun key? => key?.filter fun key => !isExpired key }

/-- Begin a block if this column is further to the right than the innermost block. The token stands
at a given position. -/
def openBlock (s : Lexer) (column position : Nat) (token : Token) : Lexer :=
  if !s.inFlow && s.indent < column then
    { s with
      indent := column
      outer := s.indent :: s.outer
      tokens := s.tokens.insertIdxIfInBounds position token }
  else s

/-- The blocks that are left when those further to the right than a column have ended, and how many
have. -/
def endedBlocks (column indent : Int) : List Int → Nat × Int × List Int
  | [] => (0, indent, [])
  | next :: outer =>
    if column < indent then
      let (count, indent, outer) := endedBlocks column next outer
      (count + 1, indent, outer)
    else (0, indent, next :: outer)

/-- End the blocks further to the right than a column. -/
def closeBlocks (s : Lexer) (column : Int) : Lexer :=
  if s.inFlow then s
  else
    let (count, indent, outer) := endedBlocks column s.indent s.outer
    { s with indent, outer, tokens := s.tokens ++ Array.replicate count .blockEnd }

/-- Pass over blanks, comments, line breaks and a byte order mark at the beginning of each line. A
tab is not passed over where a key may begin, and a line break lets a key begin. -/
def skipBlanks (inFlow : Bool) (keyAllowed inComment : Bool) : List Glyph → Bool × List Glyph
  | [] => (keyAllowed, [])
  | g :: rest =>
    if isBreak g.char then skipBlanks inFlow (keyAllowed || !inFlow) false rest
    else if inComment then skipBlanks inFlow keyAllowed true rest
    else if g.char == ' ' || (g.char == '\t' && (inFlow || !keyAllowed)) then
      skipBlanks inFlow keyAllowed false rest
    else if g.column == 0 && isByteOrderMark g.char then skipBlanks inFlow keyAllowed false rest
    else if g.char == '#' then skipBlanks inFlow keyAllowed true rest
    else (keyAllowed, g :: rest)

/-! ## Marks -/

/-- A limit of a document, which ends all blocks. -/
def documentLimit (s : Lexer) (token : Token) : Option Lexer := do
  let s ← (s.closeBlocks (-1)).dropKey
  return ((s.allowKey false).skip 3).emit token

/-- An opening bracket. -/
def openFlow (s : Lexer) (token : Token) : Option Lexer := do
  let s ← s.saveKey
  return (({ s with keys := none :: s.keys }.allowKey true).skip 1).emit token

/-- A closing bracket. -/
def closeFlow (s : Lexer) (token : Token) : Option Lexer := do
  let s ← s.dropKey
  let keys := if s.inFlow then s.keys.tail else s.keys
  return (({ s with keys }.allowKey false).skip 1).emit token

/-- A comma between brackets. -/
def comma (s : Lexer) : Option Lexer := do
  let s ← s.dropKey
  return ((s.allowKey true).skip 1).emit .comma

/-- A dash in front of an item. -/
def dash (s : Lexer) (column : Nat) : Option Lexer := do
  if !s.inFlow && !s.keyAllowed then none
  else
    let s ← (s.openBlock column s.tokens.size .blockSequence).dropKey
    return ((s.allowKey true).skip 1).emit .dash

/-- A question mark in front of a key. -/
def key (s : Lexer) (column : Nat) : Option Lexer := do
  if !s.inFlow && !s.keyAllowed then none
  else
    let s ← (s.openBlock column s.tokens.size .blockMapping).dropKey
    return ((s.allowKey (!s.inFlow)).skip 1).emit .key

/-- A colon in front of a value. -/
def value (s : Lexer) (column : Nat) : Option Lexer :=
  match s.keys.head?.join with
  | some pending =>
    let s := { s with tokens := s.tokens.insertIdxIfInBounds pending.position .key }
    let s := s.openBlock pending.column pending.position .blockMapping
    some ((({ s with keys := none :: s.keys.tail }.allowKey false).skip 1).emit .value)
  | none =>
    if !s.inFlow && !s.keyAllowed then none
    else
      let s := s.openBlock column s.tokens.size .blockMapping
      some (((s.allowKey (!s.inFlow)).skip 1).emit .value)

/-! ## Names -/

/-- The characters at the front of a text that satisfy a condition. -/
def charsWhile (condition : Char → Bool) (rest : List Glyph) : List Char :=
  (rest.takeWhile (condition ·.char)).map Glyph.char

/-- Whether a name may end here. -/
def endsName (rest : List Glyph) : Bool :=
  endsWord rest || rest.head?.any fun g =>
    ['?', ':', ',', ']', '\x7d', '%', '@', '\x60'].contains g.char

/-- The name of an anchor, in front of a node or in its place. -/
def name (s : Lexer) (token : String → Token) : Option Lexer := do
  let s ← s.saveKey
  let word := charsWhile isNameChar (s.rest.drop 1)
  let rest := (s.rest.drop 1).dropWhile (isNameChar ·.char)
  if word.isEmpty || !endsName rest then none
  else return (({ s with rest }.allowKey false).emit (token (String.ofList word)))

/-- A tag between angle brackets, and what follows it. -/
def verbatimTag? (rest : List Glyph) : Option (Token × List Glyph) := do
  let written := charsWhile Tag.isAddressChar rest
  let suffix ← Tag.ofChars? written
  match rest.dropWhile (Tag.isAddressChar ·.char) with
  | g :: rest =>
    if !written.isEmpty && g.char == '>' then return (.tag "" suffix, rest) else none
  | [] => none

/-- A tag with a handle that ends in an exclamation mark, or with the shortest handle. The shortest
handle alone is a tag that needs no handle. -/
def shortTag? (rest : List Glyph) : Option (Token × List Glyph) := do
  let word := charsWhile isNameChar (rest.drop 1)
  let behind := (rest.drop 1).dropWhile (isNameChar ·.char)
  if behind.head?.any (·.char == '!') then
    let written := charsWhile Tag.isChar (behind.drop 1)
    let suffix ← Tag.ofChars? written
    let handle := String.ofList (['!'] ++ word ++ ['!'])
    if written.isEmpty then none
    else return (.tag handle suffix, (behind.drop 1).dropWhile (Tag.isChar ·.char))
  else
    let suffix ← Tag.ofChars? (charsWhile Tag.isChar (rest.drop 1))
    let token := if suffix.isEmpty then .tag "" Tag.bare else .tag "!" suffix
    return (token, (rest.drop 1).dropWhile (Tag.isChar ·.char))

/-- A tag in front of a node. -/
def tag (s : Lexer) : Option Lexer := do
  let s ← s.saveKey
  let (token, rest) ←
    if (s.rest[1]?).any (·.char == '<') then verbatimTag? (s.rest.drop 2) else shortTag? s.rest
  if endsWord rest || (s.inFlow && rest.head?.any (·.char == ',')) then
    return (({ s with rest }.allowKey false).emit token)
  else none

/-! ## Directives -/

/-- The words of the rest of a line, up to a comment. -/
def lineWords (line : List Char) : List String :=
  let words := (line.splitBy fun a b => isBlank a == isBlank b).filter fun word =>
    !word.any isBlank
  (words.takeWhile fun word => word.head? != some '#').map String.ofList

/-- The numbers of a version. -/
def version? (text : String) : Option Token :=
  let number? := fun (part : List Char) =>
    (Numeral.unsigned? part).filter fun _ => part.length < 10
  match text.toList.span (· != '.') with
  | (major, '.' :: minor) => do return .version (← number? major) (← number? minor)
  | _ => none

/-- Whether a text is a handle of tags. -/
def isHandle (text : String) : Bool :=
  text = "!" || match text.toList with
    | '!' :: rest => rest.getLast? == some '!' && rest.dropLast.all isNameChar
    | _ => false

/-- A line with a directive for the reader. No key may begin on the next line until it ends. -/
def directive (s : Lexer) : Option Lexer := do
  let s ← (s.closeBlocks (-1)).dropKey
  let line := ((s.rest.drop 1).takeWhile (!isBreak ·.char)).map Glyph.char
  let rest := (s.rest.drop 1).dropWhile (!isBreak ·.char)
  let token ← match lineWords (line.takeWhile (· != '#')), lineWords line with
    | ["YAML", version], _ => version? version
    | _, ["TAG", name, meaning] =>
      if isHandle name && meaning.toList.all Tag.isAddressChar then
        (Tag.ofChars? meaning.toList).map (.handle name)
      else none
    | _, _ => none
  if (line.head?.any isBlank) then none
  else return (({ s with rest := rest.drop 1 }.allowKey false).emit token)

/-! ## Scalars -/

/-- A scalar between quotation marks. -/
def quoted (s : Lexer) (single : Bool) : Option Lexer := do
  let s ← s.saveKey
  let (text, rest) ← Scalar.quoted? single [] {} .text (s.rest.drop 1)
  return (({ s with rest }.allowKey false).emit (.scalar .quoted text))

/-- A block of lines. -/
def block (s : Lexer) (isFolded : Bool) : Option Lexer := do
  let s ← s.dropKey
  let (text, rest) ← Scalar.block? isFolded s.indent (s.rest.drop 1)
  let style := if isFolded then .folded else .literal
  return (({ s with rest }.allowKey true).emit (.scalar style text))

/-- A plain scalar. A key may begin behind it if it ended after a line break. -/
def plain (s : Lexer) : Option Lexer := do
  let s ← s.saveKey
  let (text, isOnNextLine, rest) ← Scalar.plain? s.inFlow (s.indent + 1) [] {} s.rest
  return (({ s with rest }.allowKey isOnNextLine).emit (.scalar .plain text))

/-- Whether a plain scalar begins here: with a character that is no mark, or with a dash, question
mark or colon that is followed by more of a word. -/
def beginsPlain (inFlow : Bool) (g : Glyph) (rest : List Glyph) : Bool :=
  let marks := "-?:,[]\x7b\x7d#&*!|>\x27\"%@\x60".toList
  (!isBlank g.char && !isBreak g.char && !marks.contains g.char) ||
    (g.char == '-' && !rest.head?.any (isBlank ·.char)) ||
    (!inFlow && (g.char == '?' || g.char == ':') && !endsWord rest)

/-- Read the token that begins here. -/
def token (s : Lexer) (g : Glyph) (rest : List Glyph) : Option Lexer :=
  let inFlow := s.inFlow
  let c := g.char
  if g.column == 0 && c == '%' then s.directive
  else if isDocumentMark '-' (g :: rest) then s.documentLimit .documentStart
  else if isDocumentMark '.' (g :: rest) then s.documentLimit .documentEnd
  else if c == '[' then s.openFlow .openSequence
  else if c == '\x7b' then s.openFlow .openMapping
  else if c == ']' then s.closeFlow .closeSequence
  else if c == '\x7d' then s.closeFlow .closeMapping
  else if c == ',' then s.comma
  else if c == '-' && endsWord rest then s.dash g.column
  else if c == '?' && (inFlow || endsWord rest) then s.key g.column
  else if c == ':' && (inFlow || endsWord rest) then s.value g.column
  else if c == '*' then s.name .alias
  else if c == '&' then s.name .anchor
  else if c == '!' then s.tag
  else if c == '|' && !inFlow then s.block false
  else if c == '>' && !inFlow then s.block true
  else if c == '\x27' then s.quoted true
  else if c == '\"' then s.quoted false
  else if beginsPlain inFlow g rest then s.plain
  else none

/-- Read the tokens up to the end of the text. The number bounds the number of tokens. -/
def run : Nat → Lexer → Option (Array Token)
  | 0, _ => none
  | fuel + 1, s => do
    let (keyAllowed, rest) := skipBlanks s.inFlow s.keyAllowed false s.rest
    let s ← { s with keyAllowed, rest }.expireKeys
    match rest with
    | [] => return ((s.closeBlocks (-1)).tokens)
    | g :: rest =>
      let s ← (s.closeBlocks g.column).token g rest
      run fuel s

end Lexer

/-- The tokens of a text, if it can be cut into tokens. -/
def Token.ofText? (text : String) : Option (List Token) := do
  let glyphs ← Glyph.ofText? text
  let tokens ← Lexer.run (glyphs.length + 1) { rest := glyphs }
  return tokens.toList

end ImageRequest.Yaml

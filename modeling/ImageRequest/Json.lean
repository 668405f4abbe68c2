import ImageRequest.Numeral.Shortest

/-!
# JSON

Values and their indented text: two blanks for each level, one member a line, and no line breaks in
an empty list or object. Members stand in the order in which they are given.
-/

namespace ImageRequest

/-- A JSON value. -/
inductive Json where
  | null
  | bool (value : Bool)
  | int (value : Int)
  | float (value : Float)
  | string (value : String)
  | list (values : List Json)
  | object (members : List (String × Json))

namespace Json

/-- Doubles are written without an exponent from `0.00001` up to below `10 ^ 16`, and with a signed
exponent beyond. -/
def layout : Numeral.Layout where
  leastOrder := -4
  greatestOrder := 16
  plus := "+"

/-- How a character is written inside a string. -/
def escape (c : Char) : List Char :=
  match c with
  | '\"' => ['\\', '\"']
  | '\\' => ['\\', '\\']
  | '\x08' => ['\\', 'b']
  | '\x0c' => ['\\', 'f']
  | '\n' => ['\\', 'n']
  | '\r' => ['\\', 'r']
  | '\t' => ['\\', 't']
  | c =>
    if c.toNat < 0x20 then
      let digits := Nat.toDigits 16 c.toNat
      ['\\', 'u'] ++ List.replicate (4 - digits.length) '0' ++ digits
    else [c]

/-- The text of a string. -/
def quote (text : String) : String :=
  "\"" ++ String.ofList (text.toList.flatMap escape) ++ "\""

/-- The text of a double; there is none for an infinite one. -/
def number (x : Float) : String :=
  if x.isFinite then layout.render x else "null"

/-- The blanks at the beginning of a line of some level. -/
def indent (level : Nat) : String :=
  String.ofList (List.replicate (2 * level) ' ')

/-- Several items between brackets, one on a line. -/
def block (level : Nat) (opening closing : String) (items : List String) : String :=
  let lines := items.map fun item => indent (level + 1) ++ item
  opening ++ "\n" ++ ",\n".intercalate lines ++ "\n" ++ indent level ++ closing

mutual

/-- The indented text of a value that begins at some level. -/
def prettyAt (level : Nat) : Json → String
  | null => "null"
  | bool true => "true"
  | bool false => "false"
  | int value => toString value
  | float value => number value
  | string value => quote value
  | list [] => "[]"
  | list (value :: values) =>
    block level "[" "]" (prettyAt (level + 1) value :: prettyValues (level + 1) values)
  | object [] => "\x7b\x7d"
  | object ((key, value) :: members) =>
    block level "\x7b" "\x7d"
      ((quote key ++ ": " ++ prettyAt (level + 1) value) :: prettyMembers (level + 1) members)

/-- The indented texts of several values. -/
def prettyValues (level : Nat) : List Json → List String
  | [] => []
  | value :: values => prettyAt level value :: prettyValues level values

/-- The indented texts of several members. -/
def prettyMembers (level : Nat) : List (String × Json) → List String
  | [] => []
  | (key, value) :: members =>
    (quote key ++ ": " ++ prettyAt level value) :: prettyMembers level members

end

/-- The indented text of a value. -/
def pretty (value : Json) : String :=
  prettyAt 0 value

end Json

end ImageRequest

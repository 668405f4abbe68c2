/-!
# Templates

The text of a configuration refers to environment variables as `${NAME}`, where the name consists of
capital letters, digits and underscores and does not begin with a digit. A template is such a text
cut into its parts; everything that is no reference stands for itself. The values of variables are
put in as they are and are not searched for references again.
-/

namespace ImageRequest

/-- The values of environment variables. -/
abbrev Environment := String → Option String

/-- A part of a template. -/
inductive TemplatePart where
  /-- A character that stands for itself. -/
  | char (c : Char)
  /-- A reference to a variable. -/
  | reference (name : String)
deriving Repr, DecidableEq

namespace TemplatePart

/-- Whether a character can begin the name of a variable. -/
def beginsName (c : Char) : Bool :=
  c.isUpper || c == '_'

/-- Whether a character can stand in the name of a variable. -/
def isNameChar (c : Char) : Bool :=
  beginsName c || c.isDigit

/-- Whether a text is the name of a variable. -/
def isName : List Char → Bool
  | [] => false
  | c :: rest => beginsName c && rest.all isNameChar

/-- The name in a reference at the beginning of a text. -/
def reference? : List Char → Option (List Char)
  | '$' :: '\x7b' :: rest =>
    let name := rest.takeWhile isNameChar
    if isName name && (rest.dropWhile isNameChar).head? = some '\x7d' then some name else none
  | _ => none

/-- The parts of a text. The number counts the characters still to be passed over because they
belong to the last reference. -/
def ofChars : Nat → List Char → List TemplatePart
  | _, [] => []
  | skip + 1, _ :: rest => ofChars skip rest
  | 0, c :: rest =>
    match reference? (c :: rest) with
    | some name => reference (String.ofList name) :: ofChars (name.length + 2) rest
    | none => char c :: ofChars 0 rest

/-- The text of a part. -/
def text : TemplatePart → List Char
  | char c => [c]
  | reference name => ['$', '\x7b'] ++ name.toList ++ ['\x7d']

/-- A reference that is found stands at the beginning of the text. -/
theorem eq_append_of_reference? {chars name : List Char} (h : reference? chars = some name) :
    ∃ rest, chars = ['$', '\x7b'] ++ name ++ '\x7d' :: rest := by
  rw [reference?.eq_def] at h
  split at h
  case h_2 => cases h
  case h_1 rest =>
    dsimp only at h
    split at h
    case isFalse => cases h
    case isTrue closed =>
      obtain rfl : rest.takeWhile isNameChar = name := by simpa using h
      have last := of_decide_eq_true (Bool.and_eq_true_iff.1 closed).2
      obtain ⟨after, hafter⟩ := List.head?_eq_some_iff.1 last
      refine ⟨after, ?_⟩
      rw [← hafter]
      simp

theorem ofChars_eq_drop (skip : Nat) (chars : List Char) :
    ofChars skip chars = ofChars 0 (chars.drop skip) := by
  induction chars generalizing skip with
  | nil => cases skip <;> rfl
  | cons c rest ih =>
    cases skip with
    | zero => rfl
    | succ skip => simpa [ofChars] using ih skip

end TemplatePart

/-- A text with references to variables. -/
abbrev Template := List TemplatePart

namespace Template

/-- The parts of a text. -/
def ofText (text : String) : Template :=
  TemplatePart.ofChars 0 text.toList

/-- The names of the variables that a template refers to. -/
def names (template : Template) : List String :=
  template.filterMap fun
    | .reference name => some name
    | .char _ => none

/-- The characters of a template with the values of its variables, or the name of the first variable
that is not set. -/
def fillChars (environment : Environment) : Template → Except String (List Char)
  | [] => .ok []
  | .char c :: template => (fillChars environment template).map (c :: ·)
  | .reference name :: template =>
    match environment name with
    | none => .error name
    | some value => (fillChars environment template).map (value.toList ++ ·)

/-- A template with the values of its variables, or the name of the first variable that is not
set. -/
def fill (environment : Environment) (template : Template) : Except String String :=
  (template.fillChars environment).map String.ofList

end Template

end ImageRequest

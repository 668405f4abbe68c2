import ImageRequest.Directive
import ImageRequest.Files
import ImageRequest.Rejection
import ImageRequest.Text.Blank
import Std.Data.TreeMap

/-!
# Presets

A preset is a named list of directives. Its definition is a line `name=directive/directive`; blank
lines and lines that begin with `#` define nothing. A later definition of a name replaces the
earlier one, and the names are kept in the order of their code points.
-/

namespace ImageRequest

/-- Lists of directives by name. -/
structure Presets where
  entries : Std.TreeMap String (List Directive)

/-- Why presets cannot be loaded. -/
inductive PresetError where
  /-- A line does not hold exactly one equals sign. -/
  | malformed (line : String)
  | emptyName (line : String)
  | emptyValue (line : String)
  /-- A segment of the value is no directive. -/
  | invalidValue (line : String)
  /-- A directive of a preset is rejected. -/
  | rejected (name : String) (rejection : Rejection)
  /-- The file with further definitions cannot be read. -/
  | unreadable (path : String) (error : FileError)
deriving Repr, DecidableEq

/-- The text of the error. -/
def PresetError.message : PresetError → String
  | .malformed line => "Invalid preset string: " ++ line
  | .emptyName line => "Empty preset name: " ++ line
  | .emptyValue line => "Empty preset value: " ++ line
  | .invalidValue line => "Invalid preset value: " ++ line
  | .rejected name rejection => "Error in preset \x60" ++ name ++ "\x60: " ++ rejection.message
  | .unreadable path error => "Failed to read presets file: " ++ path ++ ": " ++ error.message

/-- A preset with its directives. -/
structure PresetDefinition where
  name : String
  directives : List Directive
deriving Repr, DecidableEq

/-- Read the two sides of a definition, neither with blanks around it. An empty name is reported
before an empty value, and an empty value before one that holds something else than directives. -/
def PresetDefinition.ofSides (separator line name value : String) :
    Except PresetError PresetDefinition :=
  if name = "" then .error (.emptyName line)
  else if value = "" then .error (.emptyValue line)
  else
    match Directive.leading separator (Text.split "/" value) with
    | (directives, []) => .ok { name, directives }
    | (_, _ :: _) => .error (.invalidValue line)

/-- Read a line; a blank line and a comment define nothing. -/
def PresetDefinition.ofLine? (separator line : String) :
    Except PresetError (Option PresetDefinition) :=
  let line := Text.trim line
  if line = "" || line.toList.head? = some '#' then .ok none
  else
    match Text.split "=" line with
    | [name, value] => (ofSides separator line (Text.trim name) (Text.trim value)).map some
    | _ => .error (.malformed line)

namespace Presets

/-- No presets. -/
def empty : Presets :=
  { entries := ∅ }

/-- Define a preset, in place of an earlier definition of the name. -/
def insert (presets : Presets) (name : String) (directives : List Directive) : Presets :=
  { entries := presets.entries.insert name directives }

/-- The directives of a preset. -/
def find? (presets : Presets) (name : String) : Option (List Directive) :=
  presets.entries[name]?

/-- Whether a preset is defined. -/
def contains (presets : Presets) (name : String) : Bool :=
  presets.entries.contains name

/-- How many presets are defined. -/
def size (presets : Presets) : Nat :=
  presets.entries.size

/-- Whether no preset is defined. -/
def isEmpty (presets : Presets) : Bool :=
  presets.size == 0

/-- The names of the presets in order. -/
def names (presets : Presets) : List String :=
  presets.entries.keys

/-- The presets in the order of their names. -/
def toList (presets : Presets) : List (String × List Directive) :=
  presets.entries.toList

/-- Add the definition on a line. -/
def addLine (separator : String) (presets : Presets) (line : String) : Except PresetError Presets :=
  (PresetDefinition.ofLine? separator line).map fun
    | none => presets
    | some definition => presets.insert definition.name definition.directives

/-- Add the definitions on several lines. The first line that is wrong ends this with an error, and
the definitions before it stay. -/
def addLines (separator : String) (presets : Presets) : List String → Presets × Option PresetError
  | [] => (presets, none)
  | line :: lines =>
    match presets.addLine separator line with
    | .error error => (presets, some error)
    | .ok presets => presets.addLines separator lines

/-- Add the definitions in a file. -/
def addFile (separator : String) (files : Files) (presets : Presets) (path : String) :
    Presets × Option PresetError :=
  match files path with
  | .error error => (presets, some (.unreadable path error))
  | .ok content => presets.addLines separator (Text.lines content)

/-- The presets that were added, unless there was an error. -/
def whole : Presets × Option PresetError → Except PresetError Presets
  | (presets, none) => .ok presets
  | (_, some error) => .error error

/-- The presets defined on several lines and in a file, if there is one. -/
def load (separator : String) (files : Files) (lines : List String) (path? : Option String) :
    Except PresetError Presets := do
  let presets ← whole (empty.addLines separator lines)
  match path? with
  | none => return presets
  | some path => whole (presets.addFile separator files path)

theorem mem_names_of_find? {presets : Presets} {name : String} {directives : List Directive}
    (h : presets.find? name = some directives) : name ∈ presets.names :=
  Std.TreeMap.mem_keys.2 (Std.TreeMap.mem_iff_isSome_getElem?.2 (by simp_all [find?]))

end Presets

end ImageRequest

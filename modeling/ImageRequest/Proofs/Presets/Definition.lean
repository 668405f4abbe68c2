import ImageRequest.Presets
import ImageRequest.Proofs.Directive
import ImageRequest.Proofs.Text.Blank
import ImageRequest.Proofs.Text.Split

/-!
# Definitions of presets

A line holds a definition if a name and a value stand in it around its only equals sign. With a
separator of one character, what can be defined can also be written, and it is read back from every
line that writes it, whatever blanks stand around the name and around the value; and no other line
defines anything (`PresetDefinition.ofLine?_eq_ok_some_iff`). A line that is accepted changes the
directives of the name that it defines, and of no other one (`Presets.addLines_line`).
-/

namespace ImageRequest

namespace PresetDefinition

variable {separator line left right : String} {definition : PresetDefinition} {d : Char}

/-! ### The two sides of a line -/

/-- Around the equals sign of a line stand the name and the value of a definition. -/
structure IsReadFrom (separator : String) (definition : PresetDefinition) (left right : String) :
    Prop where
  equalsLeft : '=' ∉ left.toList
  equalsRight : '=' ∉ right.toList
  name : Text.trim left = definition.name
  named : definition.name ≠ ""
  noComment : definition.name.toList.head? ≠ some '#'
  given : Text.trim right ≠ ""
  directives : Directive.leading separator (Text.split "/" (Text.trim right)) =
    (definition.directives, [])

theorem ofSides_eq_ok_iff {name value : String} :
    ofSides separator line name value = .ok definition ↔
      name = definition.name ∧ name ≠ "" ∧ value ≠ "" ∧
        Directive.leading separator (Text.split "/" value) = (definition.directives, []) := by
  rw [ofSides]
  split
  · simp_all
  · split
    · simp_all
    · rcases read : Directive.leading separator (Text.split "/" value) with ⟨directives, rest⟩
      cases rest with
      | nil =>
          obtain ⟨name', directives'⟩ := definition
          simp_all
      | cons segment rest => simp_all

theorem map_some_eq_ok_some_iff {sides : Except PresetError PresetDefinition} :
    sides.map some = .ok (some definition) ↔ sides = .ok definition := by
  cases sides <;> simp [Except.map]

/-- The definition on a line is read from the two sides of its equals sign. -/
theorem ofLine?_append_eq_ok_some_iff :
    ofLine? separator (left ++ "=" ++ right) = .ok (some definition) ↔
      definition.IsReadFrom separator left right := by
  have single : "=".toList = ['='] := rfl
  have solid : Text.isBlank '=' = false := by decide
  obtain ⟨front, back, trimmed, left', right'⟩ := Text.exists_trim_append single solid left right
  have mem : ∀ {side part : String}, Text.trim part = Text.trim side →
      ('=' ∈ side.toList ↔ '=' ∈ part.toList) := by
    intro side part same
    rw [← Text.mem_trim_iff solid, ← same, Text.mem_trim_iff solid]
  have begins : Text.trim left ≠ "" → (front ++ "=" ++ back).toList.head? =
      (Text.trim left).toList.head? := by
    intro named
    rw [← trimmed, Text.head?_trim_append single solid named]
  have nonempty : front ++ "=" ++ back ≠ "" := by simp
  simp only [ofLine?, trimmed, nonempty, decide_false, Bool.false_or, decide_eq_true_eq]
  constructor
  · intro read
    split at read
    · cases read
    · rename_i noComment
      split at read
      · rename_i name value pieces
        obtain ⟨absentFront, absentBack, rfl, rfl⟩ :=
          (Text.split_append_eq_pair_iff single).1 pieces
        rw [left', right', map_some_eq_ok_some_iff, ofSides_eq_ok_iff] at read
        obtain ⟨name, named, given, directives⟩ := read
        rw [begins named, name] at noComment
        exact
          { equalsLeft := mt (mem left').1 absentFront
            equalsRight := mt (mem right').1 absentBack
            name
            named := name ▸ named
            noComment
            given
            directives }
      · cases read
  · intro read
    have named : Text.trim left ≠ "" := read.name ▸ read.named
    have pieces : Text.split "=" (front ++ "=" ++ back) = [front, back] :=
      (Text.split_append_eq_pair_iff single).2
        ⟨mt (mem left').2 read.equalsLeft, mt (mem right').2 read.equalsRight, rfl, rfl⟩
    have noComment : (front ++ "=" ++ back).toList.head? ≠ some '#' := by
      rw [begins named, read.name]
      exact read.noComment
    simp only [noComment, pieces, left', right', if_false]
    rw [map_some_eq_ok_some_iff, ofSides_eq_ok_iff]
    exact ⟨read.name, named, read.given, read.directives⟩

theorem exists_sides_of_ofLine? (read : ofLine? separator line = .ok (some definition)) :
    ∃ left right, line = left ++ "=" ++ right := by
  by_cases within : '=' ∈ line.toList
  · obtain ⟨left, right, -, same⟩ := Text.exists_eq_append_of_mem within
    exact ⟨left, right, same⟩
  · have absent : ¬ "=".toList <:+: (Text.trim line).toList := by
      have single : "=".toList = ['='] := rfl
      rwa [single, List.singleton_infix_iff, Text.mem_trim_iff (by decide)]
    rw [ofLine?] at read
    simp only [Text.split_of_not_infix absent] at read
    split at read <;> cases read

/-- A line defines nothing: it is blank, or a comment. -/
def IsIgnored (line : String) : Prop :=
  Text.trim line = "" ∨ (Text.trim line).toList.head? = some '#'

theorem ofLine?_eq_ok_none_iff (separator : String) :
    ofLine? separator line = .ok none ↔ IsIgnored line := by
  have ignored : (decide (Text.trim line = "") ||
      decide ((Text.trim line).toList.head? = some '#')) = true ↔ IsIgnored line := by
    rw [IsIgnored, Bool.or_eq_true, decide_eq_true_iff, decide_eq_true_iff]
  rw [← ignored, ofLine?]
  split
  · simp_all
  · rename_i given
    refine ⟨fun read => ?_, fun ignored => absurd ignored given⟩
    split at read
    · rename_i name value pieces
      cases sides : ofSides separator (Text.trim line) (Text.trim name) (Text.trim value) with
      | error error => simp [sides, Except.map] at read
      | ok definition => simp [sides, Except.map] at read
    · cases read

/-! ### Writing definitions -/

/-- The text that writes the directives of a preset. -/
def value (separator : String) (definition : PresetDefinition) : String :=
  "/".intercalate (definition.directives.map (Directive.segment separator))

/-- A line writes a definition: its name, an equals sign and the text of its directives, with any
blanks around the name and around that text. -/
def WrittenOn (separator : String) (definition : PresetDefinition) (line : String) : Prop :=
  ∃ left right, Text.Padded definition.name left ∧ Text.Padded (definition.value separator) right ∧
    line = left ++ "=" ++ right

/-- The definitions that can be written with a separator of one character. The name is there, it
does not make the line a comment, and there are directives; no equals sign stands in the name and in
the tokens, and no blanks stand around the name and around the text of the directives. -/
structure Writable (separator : Char) (definition : PresetDefinition) : Prop where
  named : definition.name ≠ ""
  noComment : definition.name.toList.head? ≠ some '#'
  equalsName : '=' ∉ definition.name.toList
  trimName : Text.trim definition.name = definition.name
  given : definition.directives ≠ []
  directives : ∀ directive ∈ definition.directives, directive.Writable separator
  equalsTokens : ∀ directive ∈ definition.directives,
    ∀ token ∈ directive.name :: directive.arguments, '=' ∉ token.toList
  trimValue : Text.trim (definition.value (String.singleton separator)) =
    definition.value (String.singleton separator)

theorem equals_mem_value_iff (other : d ≠ '=') :
    '=' ∈ (definition.value (String.singleton d)).toList ↔
      ∃ directive ∈ definition.directives,
        ∃ token ∈ directive.name :: directive.arguments, '=' ∈ token.toList := by
  constructor
  · intro within
    rcases Text.mem_of_mem_intercalate within with within | ⟨segment, mem, within⟩
    · simp at within
    · obtain ⟨directive, among, rfl⟩ := List.mem_map.1 mem
      rcases Text.mem_of_mem_intercalate within with within | ⟨token, mem, within⟩
      · simp [other.symm] at within
      · exact ⟨directive, among, token, mem, within⟩
  · rintro ⟨directive, mem, token, mem', within⟩
    exact Text.mem_intercalate_of_mem (List.mem_map_of_mem mem)
      (Directive.mem_segment_of_mem mem' within)

theorem Writable.value_ne_empty (writable : definition.Writable d) :
    definition.value (String.singleton d) ≠ "" := by
  obtain ⟨directive, mem⟩ := List.exists_mem_of_ne_nil _ writable.given
  have read := (writable.directives directive mem).ofSegment?_segment
  refine Text.intercalate_ne_empty_of_mem (List.mem_map_of_mem mem) ?_
  exact Directive.ne_empty_of_ofSegment? (by simp) (read ▸ Option.some_ne_none directive)

/-- A definition is read from a line exactly if it can be written, and the line writes it. -/
theorem ofLine?_eq_ok_some_iff (equals : d ≠ '=') (slash : d ≠ '/') :
    ofLine? (String.singleton d) line = .ok (some definition) ↔
      definition.Writable d ∧ definition.WrittenOn (String.singleton d) line := by
  have solid : Text.isBlank '=' = false := by decide
  constructor
  · intro read
    obtain ⟨left, right, rfl⟩ := exists_sides_of_ofLine? read
    have sides := ofLine?_append_eq_ok_some_iff.1 read
    obtain ⟨written, given, directives⟩ := (Directive.leading_split_eq_iff slash).1 sides.directives
    obtain ⟨around, trimName⟩ := Text.trim_eq_iff.1 sides.name
    obtain ⟨around', trimValue⟩ := Text.trim_eq_iff.1 written
    refine ⟨?_, left, right, around, around', rfl⟩
    have absent : '=' ∉ (definition.value (String.singleton d)).toList :=
      mt (around'.mem_iff solid).2 sides.equalsRight
    rw [equals_mem_value_iff equals] at absent
    exact
      { named := sides.named
        noComment := sides.noComment
        equalsName := mt (around.mem_iff solid).2 sides.equalsLeft
        trimName
        given
        directives
        equalsTokens := fun directive mem token mem' within =>
          absent ⟨directive, mem, token, mem', within⟩
        trimValue }
  · rintro ⟨writable, left, right, around, around', rfl⟩
    have read := Text.trim_eq_iff.2 ⟨around', writable.trimValue⟩
    refine ofLine?_append_eq_ok_some_iff.2
      { equalsLeft := mt (around.mem_iff solid).1 writable.equalsName
        equalsRight := ?_
        name := Text.trim_eq_iff.2 ⟨around, writable.trimName⟩
        named := writable.named
        noComment := writable.noComment
        given := ?_
        directives := ?_ }
    · rw [around'.mem_iff solid, equals_mem_value_iff equals]
      rintro ⟨directive, mem, token, mem', within⟩
      exact writable.equalsTokens directive mem token mem' within
    · rw [read]
      exact writable.value_ne_empty
    · exact (Directive.leading_split_eq_iff slash).2 ⟨read, writable.given, writable.directives⟩

end PresetDefinition

namespace Presets

variable {separator : String} {d : Char} {presets after : Presets} {line : String}

/-- The presets are the same as before, except that one name has new directives. -/
structure Redefines (definition : PresetDefinition) (before after : Presets) : Prop where
  here : after.find? definition.name = some definition.directives
  elsewhere : ∀ name, name ≠ definition.name → after.find? name = before.find? name

theorem redefines_insert (definition : PresetDefinition) (presets : Presets) :
    Redefines definition presets (presets.insert definition.name definition.directives) where
  here := by simp [find?, insert]
  elsewhere name other := by
    have different : compare definition.name name ≠ .eq := by
      rw [ne_eq, Std.compare_eq_iff_eq]
      exact other.symm
    simp [find?, insert, Std.TreeMap.getElem?_insert, different]

/-- A line is accepted if nothing is defined on it, or else with the definition on it. -/
theorem addLine_eq_ok_iff :
    presets.addLine separator line = .ok after ↔
      PresetDefinition.IsIgnored line ∧ after = presets ∨
        ∃ definition, PresetDefinition.ofLine? separator line = .ok (some definition) ∧
          after = presets.insert definition.name definition.directives := by
  rw [← PresetDefinition.ofLine?_eq_ok_none_iff separator, addLine]
  cases PresetDefinition.ofLine? separator line with
  | error error => simp [Except.map]
  | ok read =>
      cases read with
      | none => simp [Except.map, eq_comm]
      | some definition => simp [Except.map, eq_comm]

theorem addLines_singleton_eq_iff {error? : Option PresetError} :
    presets.addLines separator [line] = (after, error?) ↔
      match error? with
      | none => presets.addLine separator line = .ok after
      | some error => presets.addLine separator line = .error error ∧ after = presets := by
  rw [addLines]
  cases presets.addLine separator line with
  | error error =>
      cases error? with
      | none => simp
      | some other => simp [eq_comm, and_comm]
  | ok added =>
      cases error? with
      | none => simp [addLines]
      | some other => simp [addLines]

/-- With a separator of one character, a definition that can be written is added by every line that
writes it, and nothing else changes. Conversely, a line that is accepted and not ignored writes such
a definition and adds it, and nothing else changes. A line that is not accepted changes nothing. -/
theorem addLines_line (equals : d ≠ '=') (slash : d ≠ '/') (presets : Presets) (line : String) :
    (∀ definition : PresetDefinition, definition.Writable d →
      definition.WrittenOn (String.singleton d) line →
        ∃ after, presets.addLines (String.singleton d) [line] = (after, none) ∧
          Redefines definition presets after) ∧
    (∀ after, presets.addLines (String.singleton d) [line] = (after, none) →
      ¬ PresetDefinition.IsIgnored line →
        ∃ definition : PresetDefinition, definition.Writable d ∧
          definition.WrittenOn (String.singleton d) line ∧ Redefines definition presets after) ∧
    (∀ after error, presets.addLines (String.singleton d) [line] = (after, some error) →
      after = presets) := by
  refine ⟨fun definition writable written => ?_, fun after added given => ?_,
    fun after error failed => (addLines_singleton_eq_iff.1 failed).2⟩
  · have read := (PresetDefinition.ofLine?_eq_ok_some_iff equals slash).2 ⟨writable, written⟩
    refine ⟨_, addLines_singleton_eq_iff.2 ?_, redefines_insert definition presets⟩
    exact addLine_eq_ok_iff.2 (.inr ⟨definition, read, rfl⟩)
  · rcases addLine_eq_ok_iff.1 (addLines_singleton_eq_iff.1 added) with
      ⟨ignored, -⟩ | ⟨definition, read, rfl⟩
    · exact absurd ignored given
    · obtain ⟨writable, written⟩ :=
        (PresetDefinition.ofLine?_eq_ok_some_iff equals slash).1 read
      exact ⟨definition, writable, written, redefines_insert definition presets⟩

/-- A thumbnail of good quality. -/
def thumbnail : PresetDefinition where
  name := "thumb"
  directives :=
    [{ name := "rs", arguments := ["fill", "150", "150"] }, { name := "q", arguments := ["90"] }]

theorem writable_thumbnail : thumbnail.Writable ':' where
  named := by decide
  noComment := by decide
  equalsName := by decide
  trimName := by decide
  given := by decide
  directives directive mem := by
    constructor <;> revert directive <;> decide
  equalsTokens := by decide
  trimValue := by decide

/-- The thumbnail is written with blanks around its name and in front of its directives, and a line
with two equals signs is no definition. -/
theorem addLines_thumbnail :
    (∃ after, thumbnail.WrittenOn (String.singleton ':') "\tthumb = rs:fill:150:150/q:90" ∧
      empty.addLines (String.singleton ':') ["\tthumb = rs:fill:150:150/q:90"] = (after, none) ∧
        Redefines thumbnail empty after) ∧
    ∃ after error, empty.addLines (String.singleton ':') ["thumb=q=90"] = (after, some error) ∧
      after = empty := by
  have left : Text.Padded "thumb" "\tthumb " := (Text.trim_eq_iff.1 (by decide)).1
  have right : Text.Padded "rs:fill:150:150/q:90" " rs:fill:150:150/q:90" :=
    (Text.trim_eq_iff.1 (by decide)).1
  have written : thumbnail.WrittenOn (String.singleton ':') "\tthumb = rs:fill:150:150/q:90" :=
    ⟨_, _, left, right, by decide⟩
  obtain ⟨after, added, redefined⟩ :=
    (addLines_line (d := ':') (by decide) (by decide) empty _).1 thumbnail writable_thumbnail written
  have failed : empty.addLines (String.singleton ':') ["thumb=q=90"] =
      (empty, some (.malformed "thumb=q=90")) := by rfl
  exact ⟨⟨after, written, added, redefined⟩, _, _, failed,
    (addLines_line (d := ':') (by decide) (by decide) empty _).2.2 _ _ failed⟩

end Presets

end ImageRequest

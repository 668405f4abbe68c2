import ImageRequest.Config
import ImageRequest.Proofs.Presets.Definition
import ImageRequest.Proofs.Text.Lines

/-!
# Loading presets

Presets are loaded from the lines of the configuration and then from those of a file. What a line
defines depends only on what stands between the blanks around it, and a blank line defines nothing;
so it does not matter how the lines of the file are ended. Nor does it matter which of the lines
stand in the file, as long as they are the last ones: the presets are those of all the lines, and of
the definitions of a name the last one counts, wherever it stands (`loadPresets_cut`).
-/

namespace ImageRequest

namespace PresetDefinition

/-- The definition on a line, if it holds one. -/
def on? (separator line : String) : Option PresetDefinition :=
  match ofLine? separator line with
  | .ok definition? => definition?
  | .error _ => none

/-- The directives that a name has by the last of its definitions. -/
def latest? (definitions : List PresetDefinition) (name : String) : Option (List Directive) :=
  (definitions.reverse.find? (·.name = name)).map directives

theorem latest?_append (first second : List PresetDefinition) (name : String) :
    latest? (first ++ second) name = (latest? second name).or (latest? first name) := by
  rw [latest?, List.reverse_append, List.find?_append, Option.map_or, latest?, latest?]

theorem latest?_cons (definition : PresetDefinition) (definitions : List PresetDefinition)
    (name : String) :
    latest? (definition :: definitions) name =
      (latest? definitions name).or
        (if definition.name = name then some definition.directives else none) := by
  have alone : latest? [definition] name =
      if definition.name = name then some definition.directives else none := by
    by_cases same : definition.name = name <;> simp [latest?, same]
  rw [← List.singleton_append, latest?_append, alone]

theorem ofLine?_trim (separator line : String) :
    ofLine? separator (Text.trim line) = ofLine? separator line := by
  rw [ofLine?, Text.trim_trim, ← ofLine?]

end PresetDefinition

namespace Presets

variable {separator : String} {presets added : Presets} {lines : List String}

/-! ### Lines one after the other -/

/-- Lines are added up to the first one that is wrong, and so are the lines behind them. -/
theorem whole_addLines_append (first second : List String) :
    whole (presets.addLines separator (first ++ second)) =
      (whole (presets.addLines separator first)).bind fun added =>
        whole (added.addLines separator second) := by
  induction first generalizing presets with
  | nil => rfl
  | cons line first ih =>
      rw [List.cons_append, addLines, addLines]
      cases presets.addLine separator line with
      | error error => rfl
      | ok added => exact ih

/-- Neither blank lines nor the blanks around the others count. -/
theorem addLines_filled (separator : String) (presets : Presets) (lines : List String) :
    presets.addLines separator (Text.filled lines) = presets.addLines separator lines := by
  induction lines generalizing presets with
  | nil => rfl
  | cons line lines ih =>
      by_cases blank : Text.trim line = ""
      · have nothing : Text.filled (line :: lines) = Text.filled lines := by
          simp [Text.filled, blank]
        have passed : presets.addLine separator line = .ok presets :=
          addLine_eq_ok_iff.2 (.inl ⟨.inl blank, rfl⟩)
        rw [nothing, ih, addLines, passed]
      · have first : Text.filled (line :: lines) = Text.trim line :: Text.filled lines := by
          simp [Text.filled, blank]
        rw [first, addLines, addLine, PresetDefinition.ofLine?_trim, ← addLine, addLines]
        cases presets.addLine separator line with
        | error error => rfl
        | ok added => exact ih added

/-- After lines that are all accepted, a name has the directives of its last definition on them, or
those that it had before. -/
theorem find?_of_addLines (accepted : presets.addLines separator lines = (added, none))
    (name : String) :
    added.find? name =
      (PresetDefinition.latest? (lines.filterMap (PresetDefinition.on? separator)) name).or
        (presets.find? name) := by
  induction lines generalizing presets with
  | nil =>
      obtain ⟨rfl, -⟩ := Prod.mk.inj accepted
      rfl
  | cons line lines ih =>
      rw [addLines] at accepted
      cases first : presets.addLine separator line with
      | error error =>
          rw [first] at accepted
          cases accepted
      | ok next =>
          rw [first] at accepted
          rw [ih accepted]
          rcases addLine_eq_ok_iff.1 first with ⟨ignored, rfl⟩ | ⟨definition, read, rfl⟩
          · have read := (PresetDefinition.ofLine?_eq_ok_none_iff separator).2 ignored
            have nothing : PresetDefinition.on? separator line = none := by
              rw [PresetDefinition.on?, read]
            rw [List.filterMap_cons_none nothing]
          · have here : PresetDefinition.on? separator line = some definition := by
              rw [PresetDefinition.on?, read]
            have redefined := redefines_insert definition presets
            rw [List.filterMap_cons_some here, PresetDefinition.latest?_cons, Option.or_assoc]
            congr 1
            by_cases same : definition.name = name
            · rw [if_pos same, ← same, redefined.here]
              rfl
            · rw [if_neg same, redefined.elsewhere name (Ne.symm same)]
              rfl

theorem find?_empty (name : String) : empty.find? name = none := by
  simp [empty, find?]

/-! ### Lines in a file -/

/-- The lines that are written to a file are added, whichever line break they are ended with. -/
theorem addFile_of_written {files : Files} {path lineBreak final : String} {written : List String}
    (breaks : Text.IsLineBreak lineBreak) (ends : final = "" ∨ final = lineBreak)
    (unbroken : ∀ line ∈ written, '\n' ∉ line.toList)
    (content : files path = .ok (lineBreak.intercalate written ++ final)) :
    presets.addFile separator files path = presets.addLines separator written := by
  rw [addFile, content]
  change presets.addLines separator (Text.lines (lineBreak.intercalate written ++ final)) = _
  rw [← addLines_filled, Text.filled_lines_intercalate breaks ends unbroken, addLines_filled]

end Presets

namespace ProcessingConfig

/-- Wherever some lines are cut into those of the configuration and those of a file, the presets
that are loaded are those of all the lines, and lines that are wrong give the same error. The lines
of the file may be joined by either line break, with one more at the end or without. A name has the
directives of its last definition, one in the file before one in the configuration. -/
theorem loadPresets_cut (config : ProcessingConfig) {files : Files}
    {path lineBreak final : String} (before : List String) {after : List String}
    (breaks : lineBreak = "\n" ∨ lineBreak = "\r\n") (ends : final = "" ∨ final = lineBreak)
    (unbroken : ∀ line ∈ after, '\n' ∉ line.toList)
    (content : files path = .ok (lineBreak.intercalate after ++ final)) :
    let loaded :=
      { config with presets := before, presetsPath? := some path }.loadPresets files
    let definitions := List.filterMap (PresetDefinition.on? config.separator)
    loaded = Presets.whole (Presets.empty.addLines config.separator (before ++ after)) ∧
      ∀ presets, loaded = .ok presets → ∀ name,
        presets.find? name =
          (PresetDefinition.latest? (definitions after) name).or
            (PresetDefinition.latest? (definitions before) name) := by
  intro loaded definitions
  have same : loaded =
      Presets.whole (Presets.empty.addLines config.separator (before ++ after)) := by
    rw [Presets.whole_addLines_append]
    simp only [loaded, loadPresets, Presets.load,
      Presets.addFile_of_written breaks ends unbroken content]
    rfl
  refine ⟨same, fun presets ok name => ?_⟩
  rw [same] at ok
  rcases all : Presets.empty.addLines config.separator (before ++ after) with ⟨added, error?⟩
  rw [all] at ok
  cases error? with
  | some error => cases ok
  | none =>
      obtain rfl := Except.ok.inj ok
      rw [Presets.find?_of_addLines all, Presets.find?_empty, Option.or_none, List.filterMap_append,
        PresetDefinition.latest?_append]

/-- A file with lines that are ended by carriage returns and line feeds, but for the last one. -/
def sharedFile : Files := fun path =>
  if path = "shared.txt" then
    .ok "# shared presets\r\nthumb=rs:fill:64:64\r\n\r\n best = q:95"
  else .error .notFound

/-- The file gives another meaning to one of the two presets of the configuration. -/
theorem loadPresets_sharedFile :
    let before := ["thumb=w:10", "large=w:2000"]
    let after := ["# shared presets", "thumb=rs:fill:64:64", "", " best = q:95"]
    (∀ line ∈ after, '\n' ∉ line.toList) ∧
      sharedFile "shared.txt" = .ok ("\r\n".intercalate after ++ "") ∧
      ∃ presets,
        { presets := before, presetsPath? := some "shared.txt" : ProcessingConfig }.loadPresets
          sharedFile = .ok presets ∧
        presets.find? "thumb" = some [{ name := "rs", arguments := ["fill", "64", "64"] }] ∧
        presets.find? "large" = some [{ name := "w", arguments := ["2000"] }] ∧
        presets.find? "best" = some [{ name := "q", arguments := ["95"] }] := by
  intro before after
  have unbroken : ∀ line ∈ after, '\n' ∉ line.toList := by decide
  have content : sharedFile "shared.txt" = .ok ("\r\n".intercalate after ++ "") := by decide
  obtain ⟨same, latest⟩ :=
    loadPresets_cut {} before (.inr rfl) (.inl rfl) unbroken content
  have accepted : ∃ presets,
      Presets.whole (Presets.empty.addLines ":" (before ++ after)) = .ok presets := ⟨_, rfl⟩
  obtain ⟨presets, all⟩ := accepted
  have loaded := same.trans all
  refine ⟨unbroken, content, presets, loaded, ?_, ?_, ?_⟩
  · rw [latest presets loaded]
    decide
  · rw [latest presets loaded]
    decide
  · rw [latest presets loaded]
    decide

end ProcessingConfig

end ImageRequest

import ImageRequest.Presets
import ImageRequest.Proofs.Setting.Handler

/-!
# Running directives

Directives are run in order on some options, and a directive that asks for presets is replaced by
their directives. The list of directives still to be run is the agenda. A preset that was used
before is passed over with a warning, so that presets may refer to each other in a circle; an
unknown preset, like any other rejection, ends the run and leaves what was written so far.

The run ends because a preset is put on the agenda only when it becomes used: each step either uses
up one of the presets that are not used yet or makes the agenda shorter.
-/

namespace ImageRequest

/-- The same outcome after some earlier warnings. -/
def Outcome.after (outcome : Outcome) (warnings : List Warning) : Outcome :=
  { outcome with warnings := warnings ++ outcome.warnings }

namespace Presets

/-- How many presets are not among the used ones. -/
def unused (presets : Presets) (used : List String) : Nat :=
  (presets.names.filter (· ∉ used)).length

/-- How many names and arguments stand on an agenda. -/
def weight : List Directive → Nat
  | [] => 0
  | directive :: agenda => directive.arguments.length + 1 + weight agenda

/-- Using a preset for the first time leaves fewer presets unused. -/
theorem unused_append_lt {presets : Presets} {name : String} {used : List String}
    (known : name ∈ presets.names) (fresh : name ∉ used) :
    presets.unused (used ++ [name]) < presets.unused used := by
  have within : presets.names.filter (· ∉ used ++ [name]) =
      (presets.names.filter (· ∉ used)).filter (· ∉ used ++ [name]) := by
    rw [List.filter_filter]
    exact List.filter_congr fun other _ => by simp +contextual
  have mem : name ∈ presets.names.filter (· ∉ used) :=
    List.mem_filter.2 ⟨known, by simpa using fresh⟩
  rw [unused, unused, within]
  refine Nat.lt_of_le_of_ne (List.length_filter_le _ _) fun same => ?_
  have all := List.length_filter_eq_length_iff.1 same name mem
  simp at all

/-- Run the directives of an agenda on some options, at a given time. -/
def run (presets : Presets) (now : Int) (agenda : List Directive) (options : Options) : Outcome :=
  match agenda with
  | [] => { options, warnings := [], rejection? := none }
  | directive :: agenda =>
    match Keyword.ofName? directive.name with
    | none => { options, warnings := [], rejection? := some (.unknownDirective directive.name) }
    | some (.setting setting) =>
      let outcome := (setting.handle now directive.arguments).run options
      match outcome.rejection? with
      | some _ => outcome
      | none => (run presets now agenda outcome.options).after outcome.warnings
    | some .preset =>
      match _ : directive.arguments with
      | [] => run presets now agenda options
      | name :: names =>
        let later := { directive with arguments := names } :: agenda
        match _ : presets.find? name with
        | none => { options, warnings := [], rejection? := some (.unknownPreset name) }
        | some directives =>
          if name ∈ options.usedPresets then
            (run presets now later options).after [.presetAlreadyUsed name]
          else run presets now (directives ++ later) (options.use name)
termination_by (presets.unused options.usedPresets, weight agenda)
decreasing_by
  · rw [Setting.run_handle, Script.usedPresets_run]
    exact Prod.Lex.right _ (by simp [weight])
  · exact Prod.Lex.right _ (by simp [weight])
  · exact Prod.Lex.right _ (by simp_all [weight])
  · exact Prod.Lex.left _ _ (unused_append_lt (mem_names_of_find? (by assumption)) (by assumption))

/-- Run the directives of some presets on some options. -/
def runPresets (presets : Presets) (now : Int) (names : List String) (options : Options) :
    Outcome :=
  presets.run now [{ name := Keyword.preset.name, arguments := names }] options

/-- Run each of the given presets on its own, from the same options, with the preset itself used
already. Gives the warnings up to the first preset that is rejected, and that preset. -/
def checkEntries (presets : Presets) (now : Int) (options : Options) :
    List (String × List Directive) → List Warning × Option PresetError
  | [] => ([], none)
  | (name, directives) :: entries =>
    let outcome := presets.run now directives (options.use name)
    match outcome.rejection? with
    | some rejection => (outcome.warnings, some (.rejected name rejection))
    | none =>
      let (warnings, error?) := checkEntries presets now options entries
      (outcome.warnings ++ warnings, error?)

/-- Run every preset on its own, in the order of the names. -/
def check (presets : Presets) (now : Int) (options : Options) :
    List Warning × Option PresetError :=
  presets.checkEntries now options presets.toList

end Presets

end ImageRequest

import ImageRequest.Proofs.Presets.Plain

/-!
# Settings that are made of parts

A size stands for up to four directives, and a resize for those and one for the resizing type. Each
of them is given the arguments of its own slot, and the extension also what comes behind it. A part
whose slot is missing or empty is left out, together with what stands behind an empty extension.

Running the composed setting is running its parts in a row (`run_eq_run_parts`): the same edits are
made, with the same warnings, up to the same rejection.
-/

namespace ImageRequest

/-- Scripts in two rows are done one row after the other. -/
theorem Script.sequence_append (first second : List Script) :
    sequence (first ++ second) = sequence first ++ sequence second := by
  induction first with
  | nil => exact (done_append _).symm
  | cons script scripts ih =>
      change script ++ sequence (scripts ++ second) = script ++ sequence scripts ++ sequence second
      rw [ih, append_assoc]

/-- The directive with the name of a setting does what the setting does. -/
theorem Directive.script_name (now : Int) (setting : Setting) (arguments : List String) :
    Directive.script now { name := setting.name, arguments } = setting.script now arguments := by
  rw [Directive.script, Keyword.ofName?_name]

/-- A resize rejects a wrong number of arguments before it does anything else. -/
theorem Script.resize_eq_reject {arguments : List String}
    (other : ¬ (0 < arguments.length ∧ arguments.length ≤ 8)) :
    resize arguments = .reject (.invalidArguments "resize" arguments) := by
  cases arguments with
  | nil => rfl
  | cons type rest =>
      have many : 7 < rest.length := by
        simp only [List.length_cons] at other
        omega
      exact if_pos many

namespace Setting

/-- The directive for one part, which is left out if its first argument is missing or empty. -/
def part (setting : Setting) (arguments : List String) : List Directive :=
  if arguments.headD "" = "" then [] else [{ name := setting.name, arguments }]

/-- The directives that the arguments of a size stand for. -/
def sizeParts (arguments : List String) : List Directive :=
  width.part (arguments.take 1) ++ height.part ((arguments.drop 1).take 1) ++
    enlarge.part ((arguments.drop 2).take 1) ++ extend.part (arguments.drop 3)

/-- The directives that the arguments of a resize stand for. -/
def resizeParts (arguments : List String) : List Directive :=
  resizingType.part (arguments.take 1) ++ sizeParts (arguments.drop 1)

theorem mem_part {setting : Setting} {arguments : List String} {directive : Directive}
    (mem : directive ∈ setting.part arguments) :
    directive = { name := setting.name, arguments } := by
  rw [part] at mem
  split at mem
  · cases mem
  · exact List.mem_singleton.1 mem

/-- No part asks for presets. -/
theorem plain_of_mem_part {setting : Setting} {arguments : List String} {directive : Directive}
    (mem : directive ∈ setting.part arguments) :
    Keyword.ofName? directive.name ≠ some .preset := by
  rw [mem_part mem, Keyword.ofName?_name]
  exact nofun

theorem plain_of_mem_sizeParts {arguments : List String} {directive : Directive}
    (mem : directive ∈ sizeParts arguments) :
    Keyword.ofName? directive.name ≠ some .preset := by
  simp only [sizeParts, List.mem_append] at mem
  rcases mem with ((mem | mem) | mem) | mem <;> exact plain_of_mem_part mem

theorem plain_of_mem_resizeParts {arguments : List String} {directive : Directive}
    (mem : directive ∈ resizeParts arguments) :
    Keyword.ofName? directive.name ≠ some .preset := by
  rcases List.mem_append.1 mem with mem | mem
  · exact plain_of_mem_part mem
  · exact plain_of_mem_sizeParts mem

/-- What is done in a slot is what its part does, if the part begins with the argument of the
slot. -/
theorem slot_eq_sequence_part (now : Int) (setting : Setting) {arguments own : List String}
    {index : Nat} {use : String → Script} (begins : own.head? = arguments[index]?)
    (does : ∀ token, arguments[index]? = some token → use token = setting.script now own) :
    Script.slot arguments index use =
      Script.sequence ((setting.part own).map (Directive.script now)) := by
  rw [part, List.headD_eq_head?_getD, begins]
  cases given : arguments[index]? with
  | none =>
      rw [Script.slot, given]
      rfl
  | some token =>
      rw [Option.getD_some]
      by_cases empty : token = ""
      · subst empty
        rw [Script.slot, given]
        rfl
      · rw [Script.slot_of_ne given empty, if_neg empty, List.map_singleton,
          Directive.script_name, does token given]
        exact (Script.append_done _).symm

/-- So it is for a part with a single argument. -/
theorem slot_eq_sequence_part_take (now : Int) (setting : Setting) (arguments : List String)
    (index : Nat) :
    Script.slot arguments index (fun token => setting.script now [token]) =
      Script.sequence
        ((setting.part ((arguments.drop index).take 1)).map (Directive.script now)) := by
  have begins : ((arguments.drop index).take 1).head? = arguments[index]? := by
    rw [List.head?_take, if_neg Nat.one_ne_zero, List.head?_drop]
  refine slot_eq_sequence_part now setting begins fun token given => ?_
  rw [List.take_one, List.head?_drop, given]
  rfl

theorem size_eq_sequence_parts (now : Int) {arguments : List String}
    (few : arguments.length ≤ 7) :
    size.script now arguments =
      Script.sequence ((sizeParts arguments).map (Directive.script now)) := by
  have last : Script.slot arguments 3 (fun _ => extend.script now (arguments.drop 3)) =
      Script.sequence ((extend.part (arguments.drop 3)).map (Directive.script now)) :=
    slot_eq_sequence_part now extend List.head?_drop fun _ _ => rfl
  simp only [sizeParts, List.map_append, Script.sequence_append]
  rw [← last, ← slot_eq_sequence_part_take now height, ← slot_eq_sequence_part_take now enlarge,
    ← List.drop_zero (l := arguments), ← slot_eq_sequence_part_take now width]
  exact if_neg (Nat.not_lt.2 few)

theorem resize_eq_sequence_parts (now : Int) {arguments : List String}
    (given : 0 < arguments.length) (few : arguments.length ≤ 8) :
    resize.script now arguments =
      Script.sequence ((resizeParts arguments).map (Directive.script now)) := by
  cases arguments with
  | nil => cases given
  | cons type rest =>
      have few : rest.length ≤ 7 := Nat.le_of_succ_le_succ few
      have first := slot_eq_sequence_part_take now resizingType (type :: rest) 0
      have parts : resizeParts (type :: rest) =
          resizingType.part (((type :: rest).drop 0).take 1) ++ sizeParts rest := rfl
      rw [parts, List.map_append, Script.sequence_append, ← first, ← size_eq_sequence_parts now few]
      exact if_neg (Nat.not_lt.2 few)

end Setting

namespace Presets

/-- A resize with one to eight arguments and a size with up to seven of them are run like their
parts, one after the other. With any other number of arguments they are rejected and write nothing.
-/
theorem run_eq_run_parts (presets : Presets) (now : Int) (word : String) (arguments : List String)
    (options : Options) :
    (Keyword.ofName? word = some (.setting .resize) →
      (0 < arguments.length ∧ arguments.length ≤ 8 →
        presets.run now [{ name := word, arguments }] options =
          presets.run now (Setting.resizeParts arguments) options) ∧
      (¬ (0 < arguments.length ∧ arguments.length ≤ 8) →
        presets.run now [{ name := word, arguments }] options =
          { options, warnings := []
            rejection? := some (.invalidArguments "resize" arguments) })) ∧
    (Keyword.ofName? word = some (.setting .size) →
      (arguments.length ≤ 7 →
        presets.run now [{ name := word, arguments }] options =
          presets.run now (Setting.sizeParts arguments) options) ∧
      (¬ arguments.length ≤ 7 →
        presets.run now [{ name := word, arguments }] options =
          { options, warnings := []
            rejection? := some (.invalidArguments "size" arguments) })) := by
  constructor
  · intro known
    rw [run_setting_singleton known]
    constructor
    · rintro ⟨given, few⟩
      rw [run_eq_run_sequence fun _ => Setting.plain_of_mem_resizeParts]
      exact congrArg (Script.run · options) (Setting.resize_eq_sequence_parts now given few)
    · intro other
      have rejected : Setting.resize.script now arguments =
          .reject (.invalidArguments "resize" arguments) :=
        Script.resize_eq_reject other
      exact congrArg (Script.run · options) rejected
  · intro known
    rw [run_setting_singleton known]
    constructor
    · intro few
      rw [run_eq_run_sequence fun _ => Setting.plain_of_mem_sizeParts]
      exact congrArg (Script.run · options) (Setting.size_eq_sequence_parts now few)
    · intro many
      have rejected : Setting.size.script now arguments =
          .reject (.invalidArguments "size" arguments) :=
        if_pos (Nat.lt_of_not_le many)
      exact congrArg (Script.run · options) rejected

/-- A gravity is passed over if nothing is said about the extension in front of it, even a gravity
that does not exist; one behind a truth value is rejected where it stands, and the width in front of
it stays. -/
theorem run_resize_eq_run_parts :
    Keyword.ofName? "rs" = some (.setting .resize) ∧
      Setting.resizeParts ["fill", "300", "", "", "", "middle"] =
        [{ name := "resizing_type", arguments := ["fill"] }, { name := "width", arguments := ["300"] }] ∧
      Setting.resizeParts ["fill", "300", "", "", "1", "middle"] =
        [{ name := "resizing_type", arguments := ["fill"] }, { name := "width", arguments := ["300"] },
          { name := "extend", arguments := ["1", "middle"] }] ∧
      ∀ extension ∈ ["", "1"], ∀ options : Options,
        empty.run 0 [{ name := "rs", arguments := ["fill", "300", "", "", extension, "middle"] }]
            options =
          empty.run 0 (Setting.resizeParts ["fill", "300", "", "", extension, "middle"]) options := by
  have known : Keyword.ofName? "rs" = some (.setting .resize) := by decide
  refine ⟨known, rfl, rfl, fun extension _ options => ?_⟩
  exact ((run_eq_run_parts empty 0 "rs" _ options).1 known).1 ⟨by simp, by simp⟩

end Presets

end ImageRequest

import ImageRequest.Proofs.Presets.Plain
import ImageRequest.Proofs.Setting.Counts.Size
import ImageRequest.Proofs.Setting.Counts.Slots

/-!
# Arguments that are ignored

An argument counts if another token in its place would have the directive rejected or would leave
other options. All arguments that are not empty count, with one exception: a resize and a size pass
over the gravity of an extension about which they are told nothing (`argumentCounts_iff`).
-/

namespace ImageRequest

namespace Setting

/-- The argument stands behind an extension about which nothing is said. -/
def PassesOver (setting : Setting) (arguments : List String) (index : Nat) : Prop :=
  match setting with
  | size => 3 < index ∧ arguments[3]? = some ""
  | resize => 4 < index ∧ arguments[4]? = some ""
  | _ => False

open Script in
/-- The arguments that are not passed over count. -/
theorem counts_script (now : Int) {setting : Setting} {arguments : List String} {index : Nat}
    {token : String} (given : arguments[index]? = some token) (filled : token ≠ "")
    (slots : setting = watermark → index < 5) (heard : ¬ setting.PassesOver arguments index)
    (accepted : (setting.script now arguments).rejection? = none) :
    Counts (setting.script now) arguments index := by
  have within : index < arguments.length := (List.getElem?_eq_some_iff.1 given).1
  cases setting with
  | resize => exact counts_resize given filled heard accepted
  | size => exact counts_size given filled heard accepted
  | resizingType => exact counts_single_of_refuses (by nofun) within accepted
  | width => exact counts_single_of_refuses (by nofun) within accepted
  | height => exact counts_single_of_refuses (by nofun) within accepted
  | minWidth => exact counts_single_of_refuses (by nofun) within accepted
  | minHeight => exact counts_single_of_refuses (by nofun) within accepted
  | dpr => exact counts_single_of_refuses (by nofun) within accepted
  | enlarge => exact counts_switch (·.enlarge) (fun _ _ => rfl) within accepted
  | extend => exact counts_extend within accepted
  | gravity => exact counts_gravity within
  | crop => exact counts_crop within accepted
  | trim => exact counts_trim given filled accepted
  | padding => exact counts_padding within accepted
  | autoRotate => exact counts_switch (·.autoRotate) (fun _ _ => rfl) within accepted
  | rotate => exact counts_single_of_refuses (by nofun) within accepted
  | background => exact counts_background within accepted
  | blur => exact counts_single_of_refuses (by nofun) within accepted
  | sharpen => exact counts_single_of_refuses (by nofun) within accepted
  | watermark => exact counts_watermark within (slots rfl) accepted
  | stripMetadata => exact counts_switch (·.stripMetadata) (fun _ _ => rfl) within accepted
  | stripColorProfile => exact counts_switch (·.stripColorProfile) (fun _ _ => rfl) within accepted
  | quality => exact counts_single_of_refuses (by nofun) within accepted
  | maxBytes => exact counts_single_of_refuses (by nofun) within accepted
  | format => exact counts_single_of_refuses (by nofun) within accepted
  | skipProcessing => exact counts_skipProcessing within
  | cacheBuster => exact counts_text (·.cacheBuster) (fun _ _ => rfl) within accepted
  | expires => exact counts_single_of_refuses (by nofun) within accepted
  | filename => exact counts_text (·.filename) (fun _ _ => rfl) within accepted

/-- The other arguments can be replaced by anything. -/
theorem script_set_of_passesOver (now : Int) {setting : Setting} {arguments : List String}
    {index : Nat} (passed : setting.PassesOver arguments index)
    (accepted : (setting.script now arguments).rejection? = none) (token : String) :
    setting.script now (arguments.set index token) = setting.script now arguments := by
  cases setting with
  | size =>
      have few := size.length_le_of_accepted now rfl accepted
      exact Script.size_set_of_empty passed.1 passed.2 (Nat.not_lt.2 few) token
  | resize =>
      have few := resize.length_le_of_accepted now rfl accepted
      exact Script.resize_set_of_empty passed.1 passed.2 (Nat.not_lt.2 few) token
  | _ => exact absurd passed id

end Setting

namespace Presets

/-- With another argument in that place, the directive is rejected or leaves other options, at least
from some options on. -/
def ArgumentCounts (presets : Presets) (now : Int) (directive : Directive) (index : Nat) : Prop :=
  ∃ token options,
    (presets.run now [{ directive with arguments := directive.arguments.set index token }]
      options).rejection? ≠ none ∨
    (presets.run now [{ directive with arguments := directive.arguments.set index token }]
      options).options ≠ (presets.run now [directive] options).options

variable {presets : Presets} {now : Int} {directive : Directive} {setting : Setting} {index : Nat}

theorem run_replaced (known : Keyword.ofName? directive.name = some (.setting setting))
    (token : String) (options : Options) :
    presets.run now [{ directive with arguments := directive.arguments.set index token }] options =
      (setting.script now (directive.arguments.set index token)).run options :=
  run_setting_singleton known

/-- A script apart is a run that is rejected or leaves other options. -/
theorem argumentCounts_of_counts
    (known : Keyword.ofName? directive.name = some (.setting setting))
    (counts : Script.Counts (setting.script now) directive.arguments index) :
    presets.ArgumentCounts now directive index := by
  obtain ⟨token, -, apart⟩ := counts
  refine ⟨token, Options.start true true true [], ?_⟩
  rw [run_replaced known, run_setting_singleton known]
  rcases apart with refuses | differ
  · exact .inl refuses
  · exact .inr (Ne.symm (differ _))

theorem not_argumentCounts_of_passesOver
    (known : Keyword.ofName? directive.name = some (.setting setting))
    (passed : setting.PassesOver directive.arguments index)
    (accepted : (setting.script now directive.arguments).rejection? = none) :
    ¬ presets.ArgumentCounts now directive index := by
  rintro ⟨token, options, counts⟩
  rw [run_replaced known, run_setting_singleton known,
    Setting.script_set_of_passesOver now passed accepted] at counts
  rcases counts with refuses | differ
  · exact refuses accepted
  · exact differ rfl

/-- Each argument of an accepted directive that is not empty counts, unless the setting passes over
it. More arguments than a setting accepts are rejected, and nothing is written. -/
theorem argumentCounts_iff (presets : Presets) (now : Int)
    (known : Keyword.ofName? directive.name = some (.setting setting)) :
    (∀ index token options, directive.arguments[index]? = some token → token ≠ "" →
      (presets.run now [directive] options).rejection? = none →
      (setting = .watermark → index < 5) →
      (presets.ArgumentCounts now directive index ↔
        ¬ setting.PassesOver directive.arguments index)) ∧
    (∀ most options, setting.most? = some most → most < directive.arguments.length →
      ∃ label, presets.run now [directive] options =
        { options, warnings := []
          rejection? := some (.invalidArguments label directive.arguments) }) := by
  constructor
  · intro index token options given filled accepted slots
    rw [run_setting_singleton known] at accepted
    constructor
    · intro counts passed
      exact not_argumentCounts_of_passesOver known passed accepted counts
    · intro heard
      exact argumentCounts_of_counts known
        (Setting.counts_script now given filled slots heard accepted)
  · intro most options limited many
    obtain ⟨label, rejected⟩ := Setting.script_eq_reject now limited many
    refine ⟨label, ?_⟩
    rw [run_setting_singleton known, rejected]
    rfl

/-- A resize with something in each of its slots. -/
def filledResize : Directive :=
  { name := "rs", arguments := ["fill", "300", "200", "1", "1", "no", "0", "5"] }

/-- All of its arguments count, the last offset just as the resizing type. -/
theorem argumentCounts_filledResize :
    Keyword.ofName? filledResize.name = some (.setting .resize) ∧
      (∀ options, (empty.run 0 [filledResize] options).rejection? = none) ∧
      ∀ index < 8, empty.ArgumentCounts 0 filledResize index := by
  have known : Keyword.ofName? filledResize.name = some (.setting .resize) := by decide
  have accepted : ∀ options, (empty.run 0 [filledResize] options).rejection? = none := by
    intro options
    rw [run_setting_singleton known]
    change (Setting.resize.script 0 filledResize.arguments).rejection? = none
    decide +kernel
  refine ⟨known, accepted, fun index within => ?_⟩
  have given : ∃ token, filledResize.arguments[index]? = some token ∧ token ≠ "" := by
    revert index
    decide
  obtain ⟨token, given, filled⟩ := given
  refine ((argumentCounts_iff empty 0 known).1 index token (Options.start true true true [])
    given filled (accepted _) nofun).2 ?_
  rintro ⟨-, empty⟩
  exact absurd empty (by decide)

/-- A size that says nothing about the extension and puts it in the middle. -/
def emptyExtension : Directive :=
  { name := "s", arguments := ["1", "2", "1", "", "middle"] }

/-- It is accepted with whatever stands there, and always leaves the same options, although there is
no such gravity. -/
theorem not_argumentCounts_emptyExtension :
    (∀ options, (empty.run 0 [emptyExtension] options).rejection? = none) ∧
      emptyExtension.arguments[4]? = some "middle" ∧ "middle" ≠ "" ∧
      ¬ empty.ArgumentCounts 0 emptyExtension 4 := by
  have known : Keyword.ofName? emptyExtension.name = some (.setting .size) := by decide
  have accepted : (Setting.size.script 0 emptyExtension.arguments).rejection? = none := by
    decide +kernel
  refine ⟨fun options => ?_, rfl, by decide, ?_⟩
  · rw [run_setting_singleton known]
    exact accepted
  · exact not_argumentCounts_of_passesOver known ⟨by decide, rfl⟩ accepted

end Presets

end ImageRequest

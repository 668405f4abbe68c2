import ImageRequest.Proofs.Presets.Nesting
import ImageRequest.Proofs.Setting.Repeated

/-!
# Directives that are run again

A directive that goes through may be run once more on the options that it leaves, and changes
nothing there (`run_run`). For a setting this is a fact about its edits. A request for presets has
used all of its presets by then, whatever their directives asked for in turn, and so it is passed
over name by name; even a preset that adds to a list adds to it once.
-/

namespace ImageRequest

namespace Presets

variable {presets : Presets} {now : Int} {options : Options} {word : String}

/-- A preset that is used stays so through a run that is not rejected. -/
theorem mem_usedPresets_run {agenda : List Directive} {name : String}
    (used : name ∈ options.usedPresets)
    (accepted : (presets.run now agenda options).rejection? = none) :
    name ∈ (presets.run now agenda options).options.usedPresets := by
  refine run_preserves (P := fun options => name ∈ options.usedPresets) ?_ ?_ used accepted
  · intro setting arguments options used _
    rwa [Edit.usedPresets_applyAll]
  · intro other options used
    exact List.mem_append_left [other] used

/-- A request for presets goes through only if all of them are defined, and uses all of them. -/
theorem isUsed_of_run_preset (known : Keyword.ofName? word = some .preset) {names : List String}
    (accepted : (presets.run now [{ name := word, arguments := names }] options).rejection? = none) :
    ∀ name ∈ names, (∃ directives, presets.find? name = some directives) ∧
      name ∈ (presets.run now [{ name := word, arguments := names }] options).options.usedPresets := by
  induction names generalizing options with
  | nil => exact List.forall_mem_nil _
  | cons name names ih =>
      have known' : Keyword.ofName?
          { name := word, arguments := name :: names : Directive }.name = some .preset := known
      cases found : presets.find? name with
      | none =>
          rw [run_preset_unknown known' rfl found] at accepted
          cases accepted
      | some directives =>
          by_cases used : name ∈ options.usedPresets
          · have stays := mem_usedPresets_run used accepted
            refine List.forall_mem_cons.2 ⟨⟨⟨directives, found⟩, stays⟩, ?_⟩
            rw [run_preset_used known' rfl found used] at accepted ⊢
            exact ih accepted
          · rw [run_preset_fresh known' rfl found used] at accepted ⊢
            have entered : name ∈ (options.use name).usedPresets :=
              List.mem_append_right _ (List.mem_singleton_self name)
            have stays := mem_usedPresets_run entered accepted
            refine List.forall_mem_cons.2 ⟨⟨⟨directives, found⟩, stays⟩, ?_⟩
            rw [run_append] at accepted ⊢
            obtain ⟨inside, later⟩ := Outcome.rejection?_andThen_eq_none.1 accepted
            rw [Outcome.options_andThen inside]
            exact ih later

/-- A request for presets that are used already is passed over, with a warning for each of them. -/
theorem run_preset_of_isUsed (known : Keyword.ofName? word = some .preset) {names : List String}
    (used : ∀ name ∈ names, (∃ directives, presets.find? name = some directives) ∧
      name ∈ options.usedPresets) :
    presets.run now [{ name := word, arguments := names }] options =
      { options, warnings := names.map .presetAlreadyUsed, rejection? := none } := by
  induction names with
  | nil =>
      rw [run_preset_nil (by exact known) rfl, run_nil]
      rfl
  | cons name names ih =>
      obtain ⟨⟨⟨directives, found⟩, first⟩, rest⟩ := List.forall_mem_cons.1 used
      rw [run_preset_used (by exact known) rfl found first, ih rest]
      rfl

/-- A directive that is not rejected goes through a second time and leaves all options as they are,
unless it adds to a list by itself. -/
theorem run_run (presets : Presets) (now : Int) (directive : Directive) (options : Options)
    (notSkip : Keyword.ofName? directive.name ≠ some (.setting .skipProcessing))
    (accepted : (presets.run now [directive] options).rejection? = none) :
    let once := (presets.run now [directive] options).options
    (presets.run now [directive] once).rejection? = none ∧
      (presets.run now [directive] once).options = once := by
  intro once
  cases known : Keyword.ofName? directive.name with
  | none =>
      rw [run_unknown known] at accepted
      cases accepted
  | some keyword =>
      cases keyword with
      | setting setting =>
          have notSkip : setting ≠ .skipProcessing := by
            rintro rfl
            exact notSkip known
          rw [run_setting_singleton known] at accepted
          simp only [once, run_setting_singleton known]
          exact ⟨accepted, Setting.applyAll_twice notSkip accepted options⟩
      | preset =>
          have used := isUsed_of_run_preset known accepted
          rw [run_preset_of_isUsed known used]
          exact ⟨rfl, rfl⟩

/-- Two presets that ask for each other, one of which adds to a list. -/
def skippingCircle : Presets :=
  (empty.insert "a"
      [{ name := "skp", arguments := ["png"] }, { name := "pr", arguments := ["b"] }]).insert
    "b" [{ name := "pd", arguments := ["0", "5"] }, { name := "pr", arguments := ["a", "b"] }]

/-- From one end of the circle, the list has one format more after the first run and after the
second one. -/
theorem run_run_skippingCircle :
    let directive : Directive := { name := "preset", arguments := ["b", "a"] }
    let start := Options.start true true true [.gif]
    let once := (skippingCircle.run 0 [directive] start).options
    Keyword.ofName? directive.name ≠ some (.setting .skipProcessing) ∧
      (skippingCircle.run 0 [directive] start).rejection? = none ∧
      once.skippedFormats = [.gif, .png] ∧ once.usedPresets = ["b", "a"] ∧
      (skippingCircle.run 0 [directive] once).rejection? = none ∧
      (skippingCircle.run 0 [directive] once).options = once := by
  intro directive start once
  have notSkip : Keyword.ofName? directive.name ≠ some (.setting .skipProcessing) := by decide
  have result : (skippingCircle.nested 0 3 [directive] start).map (fun account =>
      (account.outcome.rejection?, account.outcome.options.skippedFormats,
        account.outcome.options.usedPresets)) =
      some (none, [.gif, .png], ["b", "a"]) := by decide +kernel
  obtain ⟨account, gives, parts⟩ := Option.map_eq_some_iff.1 result
  have runs := run_eq_of_nested (by decide +kernel) gives
  simp only [Prod.mk.injEq, ← runs] at parts
  obtain ⟨accepted, skipped, used⟩ := parts
  obtain ⟨accepted', same⟩ := run_run skippingCircle 0 directive start notSkip accepted
  exact ⟨notSkip, accepted, skipped, used, accepted', same⟩

end Presets

end ImageRequest

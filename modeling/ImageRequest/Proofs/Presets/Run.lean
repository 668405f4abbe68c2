import ImageRequest.Resolver

/-!
# Runs of directives

The equations of a run, one for each thing that the head of an agenda can ask for, and what follows
from them for whole agendas: `run_append` says that a joined agenda is run part by part, and
`run_preserves` carries a property of options through a run that is not rejected.

Everything later about runs is derived from these statements and does not open `Presets.run`.
-/

namespace ImageRequest

namespace Outcome

variable (outcome : Outcome) (warnings : List Warning)

@[simp] theorem options_after : (outcome.after warnings).options = outcome.options := rfl

@[simp] theorem rejection?_after : (outcome.after warnings).rejection? = outcome.rejection? := rfl

@[simp] theorem warnings_after :
    (outcome.after warnings).warnings = warnings ++ outcome.warnings := rfl

@[simp] theorem after_nil : outcome.after [] = outcome := rfl

@[simp] theorem after_after (earlier : List Warning) :
    (outcome.after warnings).after earlier = outcome.after (earlier ++ warnings) := by
  simp [after]

/-- Nothing follows an outcome that ended with a rejection. -/
theorem andThen_of_some {outcome : Outcome} {rejection : Rejection}
    (rejected : outcome.rejection? = some rejection) (next : Options → Outcome) :
    outcome.andThen next = outcome := by
  simp [andThen, rejected]

/-- An outcome without a rejection is followed by the next one on its options. -/
theorem andThen_of_none {outcome : Outcome} (accepted : outcome.rejection? = none)
    (next : Options → Outcome) :
    outcome.andThen next = (next outcome.options).after outcome.warnings := by
  simp [andThen, accepted]

/-- Earlier warnings stand in front, whatever follows. -/
theorem andThen_after (next : Options → Outcome) :
    (outcome.after warnings).andThen next = (outcome.andThen next).after warnings := by
  cases rejected : outcome.rejection? with
  | some rejection =>
      rw [andThen_of_some rejected, andThen_of_some (by simpa using rejected)]
  | none =>
      rw [andThen_of_none rejected, andThen_of_none (by simpa using rejected)]
      simp

/-- What follows an outcome only matters on the options of the outcome. -/
theorem andThen_congr {outcome : Outcome} {next other : Options → Outcome}
    (same : next outcome.options = other outcome.options) :
    outcome.andThen next = outcome.andThen other := by
  simp only [andThen, same]

/-- A sequence of two goes through exactly when both of its parts do. -/
theorem rejection?_andThen_eq_none {outcome : Outcome} {next : Options → Outcome} :
    (outcome.andThen next).rejection? = none ↔
      outcome.rejection? = none ∧ (next outcome.options).rejection? = none := by
  cases rejected : outcome.rejection? with
  | some rejection => simp [andThen_of_some rejected, rejected]
  | none => simp [andThen_of_none rejected]

theorem andThen_assoc (next later : Options → Outcome) :
    (outcome.andThen next).andThen later =
      outcome.andThen fun options => (next options).andThen later := by
  cases rejected : outcome.rejection? with
  | some rejection =>
      rw [andThen_of_some rejected, andThen_of_some rejected, andThen_of_some rejected]
  | none =>
      rw [andThen_of_none rejected, andThen_after, andThen_of_none rejected]

/-- The options after a sequence of two that goes through are those after its second part. -/
theorem options_andThen {outcome : Outcome} {next : Options → Outcome}
    (accepted : outcome.rejection? = none) :
    (outcome.andThen next).options = (next outcome.options).options := by
  rw [andThen_of_none accepted, options_after]

end Outcome

namespace Presets

variable {presets : Presets} {now : Int} {directive : Directive} {agenda : List Directive}
  {options : Options}

/-! ### One step of a run -/

@[simp] theorem run_nil :
    presets.run now [] options = { options, warnings := [], rejection? := none } := by
  rw [run]

/-- Nothing is left to be done after the last directive. -/
@[simp] theorem andThen_run_nil (outcome : Outcome) :
    outcome.andThen (presets.run now []) = outcome := by
  cases rejected : outcome.rejection? with
  | some rejection => exact Outcome.andThen_of_some rejected _
  | none =>
      rw [Outcome.andThen_of_none rejected, run_nil, ← rejected]
      simp [Outcome.after]

/-- A directive that is not known ends the run. -/
theorem run_unknown (unknown : Keyword.ofName? directive.name = none) :
    presets.run now (directive :: agenda) options =
      { options, warnings := [], rejection? := some (.unknownDirective directive.name) } := by
  rw [run, unknown]

/-- A setting runs its handler, and the agenda goes on after it. -/
theorem run_handler {setting : Setting}
    (known : Keyword.ofName? directive.name = some (.setting setting)) :
    presets.run now (directive :: agenda) options =
      ((setting.handle now directive.arguments).run options).andThen (presets.run now agenda) := by
  rw [run, known]
  rfl

/-- A setting runs its script, and the agenda goes on after it. -/
theorem run_setting {setting : Setting}
    (known : Keyword.ofName? directive.name = some (.setting setting)) :
    presets.run now (directive :: agenda) options =
      ((setting.script now directive.arguments).run options).andThen (presets.run now agenda) := by
  rw [run_handler known, Setting.run_handle]

/-- A setting alone runs its handler. -/
theorem run_handler_singleton {setting : Setting}
    (known : Keyword.ofName? directive.name = some (.setting setting)) :
    presets.run now [directive] options =
      (setting.handle now directive.arguments).run options := by
  rw [run_handler known, andThen_run_nil]

/-- A setting alone runs its script. -/
theorem run_setting_singleton {setting : Setting}
    (known : Keyword.ofName? directive.name = some (.setting setting)) :
    presets.run now [directive] options =
      (setting.script now directive.arguments).run options := by
  rw [run_handler_singleton known, Setting.run_handle]

/-- A request for presets goes through their names one by one. -/
theorem run_preset (known : Keyword.ofName? directive.name = some .preset) :
    presets.run now (directive :: agenda) options =
      match directive.arguments with
      | [] => presets.run now agenda options
      | name :: names =>
        match presets.find? name with
        | none => { options, warnings := [], rejection? := some (.unknownPreset name) }
        | some directives =>
          if name ∈ options.usedPresets then
            (presets.run now ({ directive with arguments := names } :: agenda) options).after
              [.presetAlreadyUsed name]
          else
            presets.run now (directives ++ { directive with arguments := names } :: agenda)
              (options.use name) := by
  rw [run]
  simp only [known]
  cases directive.arguments with
  | nil => rfl
  | cons name names =>
      simp only
      split
      · rename_i missing
        simp only [missing]
      · rename_i directives found
        simp only [found]

/-- A request for no preset at all does nothing. -/
theorem run_preset_nil (known : Keyword.ofName? directive.name = some .preset)
    (arguments : directive.arguments = []) :
    presets.run now (directive :: agenda) options = presets.run now agenda options := by
  rw [run_preset known, arguments]

/-- A preset that is not defined ends the run. -/
theorem run_preset_unknown {name : String} {names : List String}
    (known : Keyword.ofName? directive.name = some .preset)
    (arguments : directive.arguments = name :: names) (missing : presets.find? name = none) :
    presets.run now (directive :: agenda) options =
      { options, warnings := [], rejection? := some (.unknownPreset name) } := by
  simp only [run_preset known, arguments, missing]

/-- A preset that was used before is passed over with a warning. -/
theorem run_preset_used {name : String} {names : List String} {directives : List Directive}
    (known : Keyword.ofName? directive.name = some .preset)
    (arguments : directive.arguments = name :: names)
    (found : presets.find? name = some directives) (used : name ∈ options.usedPresets) :
    presets.run now (directive :: agenda) options =
      (presets.run now ({ directive with arguments := names } :: agenda) options).after
        [.presetAlreadyUsed name] := by
  simp only [run_preset known, arguments, found, if_pos used]

/-- The directives of a preset that was not used before are run in its place. -/
theorem run_preset_fresh {name : String} {names : List String} {directives : List Directive}
    (known : Keyword.ofName? directive.name = some .preset)
    (arguments : directive.arguments = name :: names)
    (found : presets.find? name = some directives) (fresh : name ∉ options.usedPresets) :
    presets.run now (directive :: agenda) options =
      presets.run now (directives ++ { directive with arguments := names } :: agenda)
        (options.use name) := by
  simp only [run_preset known, arguments, found, if_neg fresh]

/-! ### Whole agendas -/

/-- A joined agenda is run part by part. -/
theorem run_append (presets : Presets) (now : Int) (first second : List Directive)
    (options : Options) :
    presets.run now (first ++ second) options =
      (presets.run now first options).andThen (presets.run now second) := by
  -- along the run and not along the list, as a preset puts its directives in front of the rest
  fun_induction presets.run now first options with
  | case1 options => simp [Outcome.andThen]
  | case2 options directive agenda unknown =>
      rw [List.cons_append, run_unknown unknown, Outcome.andThen_of_some rfl]
  | case3 options directive agenda setting known outcome rejection rejected =>
      rw [List.cons_append, run_handler known, Outcome.andThen_of_some rejected,
        Outcome.andThen_of_some rejected]
  | case4 options directive agenda setting known outcome accepted ih =>
      rw [List.cons_append, run_handler known, Outcome.andThen_of_none accepted, ih,
        Outcome.andThen_after]
  | case5 options directive agenda known arguments ih =>
      rw [List.cons_append, run_preset_nil known arguments, ih]
  | case6 options directive agenda known name names arguments missing =>
      rw [List.cons_append, run_preset_unknown known arguments missing, Outcome.andThen_of_some rfl]
  | case7 options directive agenda known name names arguments later directives found used ih =>
      rw [List.cons_append, run_preset_used known arguments found used, Outcome.andThen_after,
        ← ih, List.cons_append]
  | case8 options directive agenda known name names arguments later directives found fresh ih =>
      rw [List.cons_append, run_preset_fresh known arguments found fresh, ← ih, List.append_assoc,
        List.cons_append]

/-- An agenda is run one directive after the other. -/
theorem run_cons (presets : Presets) (now : Int) (directive : Directive) (agenda : List Directive)
    (options : Options) :
    presets.run now (directive :: agenda) options =
      (presets.run now [directive] options).andThen (presets.run now agenda) :=
  run_append presets now [directive] agenda options

/-- A property that the scripts of all settings keep, as long as they are not rejected, and that
does not depend on the used presets is kept by every run that is not rejected. -/
theorem run_preserves {P : Options → Prop}
    (script : ∀ (setting : Setting) (arguments : List String) (options : Options), P options →
      (setting.script now arguments).rejection? = none →
        P (Edit.applyAll (setting.script now arguments).edits options))
    (use : ∀ (name : String) (options : Options), P options → P (options.use name))
    (initially : P options) (accepted : (presets.run now agenda options).rejection? = none) :
    P (presets.run now agenda options).options := by
  revert initially accepted
  fun_induction presets.run now agenda options with
  | case1 options => exact fun initially _ => initially
  | case2 options directive agenda unknown => intro _ accepted; simp at accepted
  | case3 options directive agenda setting known outcome rejection rejected =>
      intro _ accepted
      simp [rejected] at accepted
  | case4 options directive agenda setting known outcome accepted ih =>
      intro initially rest
      have acts : outcome = (setting.script now directive.arguments).run options :=
        Setting.run_handle now setting directive.arguments options
      rw [acts] at accepted ih rest ⊢
      exact ih (script setting directive.arguments options initially accepted) rest
  | case5 options directive agenda known arguments ih => exact ih
  | case6 options directive agenda known name names arguments missing =>
      intro _ accepted
      simp at accepted
  | case7 options directive agenda known name names arguments later directives found used ih =>
      exact ih
  | case8 options directive agenda known name names arguments later directives found fresh ih =>
      exact fun initially => ih (use name options initially)

end Presets

end ImageRequest

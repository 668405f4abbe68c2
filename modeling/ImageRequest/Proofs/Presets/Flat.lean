import ImageRequest.Proofs.Presets.Run

/-!
# Flat runs

With presets replaced by their directives, a run is a plain list of steps: settings with their
arguments, and marks where a preset is entered, passed over, or not known. The list depends on the
agenda and on the presets used before, and on nothing else of the options.

`run_eq_applyAll_steps` says that running an agenda is the same as making these steps one by one,
with the same options, warnings and rejection.
-/

namespace ImageRequest

/-- One step of a run. -/
inductive Step where
  /-- A setting is given its arguments. -/
  | set (setting : Setting) (arguments : List String)
  /-- A preset is used for the first time, and the steps of its directives follow. -/
  | enter (name : String)
  /-- A preset that was used before is passed over. -/
  | passOver (name : String)
  /-- The run cannot go on. -/
  | halt (rejection : Rejection)
deriving Repr, DecidableEq

namespace Step

/-- Make a step on some options, at a given time. -/
def apply (now : Int) : Step → Options → Outcome
  | set setting arguments, options => (setting.script now arguments).run options
  | enter name, options => { options := options.use name, warnings := [], rejection? := none }
  | passOver name, options =>
    { options, warnings := [.presetAlreadyUsed name], rejection? := none }
  | halt rejection, options => { options, warnings := [], rejection? := some rejection }

/-- The edits of a step, those before a rejection included. -/
def edits (now : Int) : Step → List Edit
  | set setting arguments => (setting.script now arguments).edits
  | _ => []

/-- Make several steps up to the first rejection. -/
def applyAll (now : Int) : List Step → Options → Outcome
  | [], options => { options, warnings := [], rejection? := none }
  | step :: steps, options => (step.apply now options).andThen (applyAll now steps)

@[simp] theorem applyAll_nil (now : Int) (options : Options) :
    applyAll now [] options = { options, warnings := [], rejection? := none } := rfl

@[simp] theorem applyAll_cons (now : Int) (step : Step) (steps : List Step) (options : Options) :
    applyAll now (step :: steps) options = (step.apply now options).andThen (applyAll now steps) :=
  rfl

theorem applyAll_enter (now : Int) (name : String) (steps : List Step) (options : Options) :
    applyAll now (enter name :: steps) options = applyAll now steps (options.use name) := by
  rw [applyAll_cons, apply, Outcome.andThen_of_none rfl]
  rfl

theorem applyAll_passOver (now : Int) (name : String) (steps : List Step) (options : Options) :
    applyAll now (passOver name :: steps) options =
      (applyAll now steps options).after [.presetAlreadyUsed name] := by
  rw [applyAll_cons, apply, Outcome.andThen_of_none rfl]

theorem applyAll_halt (now : Int) (rejection : Rejection) (steps : List Step) (options : Options) :
    applyAll now (halt rejection :: steps) options =
      { options, warnings := [], rejection? := some rejection } := by
  rw [applyAll_cons, apply, Outcome.andThen_of_some rfl]

theorem applyAll_append (now : Int) (first second : List Step) (options : Options) :
    applyAll now (first ++ second) options =
      (applyAll now first options).andThen (applyAll now second) := by
  induction first generalizing options with
  | nil => rfl
  | cons step first ih =>
      rw [List.cons_append, applyAll_cons, applyAll_cons, Outcome.andThen_assoc]
      exact Outcome.andThen_congr (ih _)

end Step

namespace Presets

/-- The steps of running an agenda when some presets have been used before. -/
def steps (presets : Presets) (agenda : List Directive) (used : List String) : List Step :=
  match agenda with
  | [] => []
  | directive :: agenda =>
    match Keyword.ofName? directive.name with
    | none => [.halt (.unknownDirective directive.name)]
    | some (.setting setting) => .set setting directive.arguments :: steps presets agenda used
    | some .preset =>
      match _ : directive.arguments with
      | [] => steps presets agenda used
      | name :: names =>
        let later := { directive with arguments := names } :: agenda
        match _ : presets.find? name with
        | none => [.halt (.unknownPreset name)]
        | some directives =>
          if name ∈ used then .passOver name :: steps presets later used
          else .enter name :: steps presets (directives ++ later) (used ++ [name])
termination_by (presets.unused used, weight agenda)
decreasing_by
  · exact Prod.Lex.right _ (by simp [weight])
  · exact Prod.Lex.right _ (by simp [weight])
  · exact Prod.Lex.right _ (by simp_all [weight])
  · exact Prod.Lex.left _ _ (unused_append_lt (mem_names_of_find? (by assumption)) (by assumption))

/-- Running an agenda is making its steps, one after the other. -/
theorem run_eq_applyAll_steps (presets : Presets) (now : Int) (agenda : List Directive)
    (options : Options) :
    presets.run now agenda options =
      Step.applyAll now (presets.steps agenda options.usedPresets) options := by
  -- the options change from step to step, but only a step that enters a preset changes `used`
  generalize same : options.usedPresets = used
  fun_induction presets.steps agenda used generalizing options with
  | case1 used => simp
  | case2 used directive agenda unknown =>
      rw [run_unknown unknown]
      rfl
  | case3 used directive agenda setting known ih =>
      subst same
      rw [run_setting known, Step.applyAll_cons, Step.apply]
      exact Outcome.andThen_congr (ih _ (Script.usedPresets_run _ _))
  | case4 used directive agenda known arguments ih =>
      rw [run_preset_nil known arguments, ih options same]
  | case5 used directive agenda known name names arguments missing =>
      rw [run_preset_unknown known arguments missing]
      rfl
  | case6 used directive agenda known name names arguments later directives found visited ih =>
      subst same
      rw [run_preset_used known arguments found visited, ih options rfl, Step.applyAll_cons,
        Outcome.andThen_of_none rfl]
      rfl
  | case7 used directive agenda known name names arguments later directives found fresh ih =>
      subst same
      rw [run_preset_fresh known arguments found fresh, ih (options.use name) rfl,
        Step.applyAll_cons, Outcome.andThen_of_none rfl]
      rfl

end Presets

end ImageRequest

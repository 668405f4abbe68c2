import ImageRequest.Proofs.Presets.Flat
import ImageRequest.Proofs.Presets.Nesting
import ImageRequest.Proofs.Setting.Composed
import Mathlib.Order.Defs.LinearOrder

/-!
# Flat expansion of presets

The flat expansion of some directives is found by a walk from left to right, depth first, that keeps
a list of the presets it has visited. In place of a reference to a preset that it has not visited
stands the expansion of the directives of that preset; a reference to one that it has visited is
deleted. What is left are directives that ask for no presets.

Running directives is running their flat expansion, for which no preset has to be defined:
`run_eq_run_flatten`. The walk does not look at what the directives do, so that it goes on where a
run stops at a rejection; `Piece.reached` is the part of it that a run comes to see.
-/

namespace ImageRequest

/-- What the walk leaves in place of a directive or of a reference to a preset. -/
inductive Piece where
  /-- A directive that asks for no presets stays. -/
  | keep (directive : Directive)
  /-- A preset is visited, and the pieces of its directives follow. -/
  | enter (name : String)
  /-- A reference to a preset visited before is deleted. -/
  | delete (name : String)
  /-- A reference to a preset that is not defined. -/
  | unknown (name : String)
deriving Repr, DecidableEq

/-- The options with other presets used. -/
def Options.withUsed (options : Options) (used : List String) : Options :=
  { options with usedPresets := used }

theorem Edit.apply_withUsed (edit : Edit) (options : Options) (used : List String) :
    edit.apply (options.withUsed used) = (edit.apply options).withUsed used := by
  cases edit <;> rfl

theorem Edit.applyAll_withUsed (edits : List Edit) (options : Options) (used : List String) :
    Edit.applyAll edits (options.withUsed used) = (Edit.applyAll edits options).withUsed used := by
  induction edits generalizing options with
  | nil => rfl
  | cons edit edits ih =>
      change applyAll edits (edit.apply (options.withUsed used)) = _
      rw [apply_withUsed, ih]
      rfl

/-- The outcome with other presets used. -/
def Outcome.withUsed (outcome : Outcome) (used : List String) : Outcome :=
  { outcome with options := outcome.options.withUsed used }

@[simp] theorem Outcome.options_withUsed (outcome : Outcome) (used : List String) :
    (outcome.withUsed used).options = outcome.options.withUsed used := rfl

@[simp] theorem Outcome.warnings_withUsed (outcome : Outcome) (used : List String) :
    (outcome.withUsed used).warnings = outcome.warnings := rfl

@[simp] theorem Outcome.rejection?_withUsed (outcome : Outcome) (used : List String) :
    (outcome.withUsed used).rejection? = outcome.rejection? := rfl

/-- A setting does not look at the presets used. -/
theorem Step.apply_set_withUsed (now : Int) (setting : Setting) (arguments : List String)
    (options : Options) (used : List String) :
    (Step.set setting arguments).apply now (options.withUsed used) =
      ((setting.script now arguments).run options).withUsed used := by
  rw [Step.apply, Script.run, Edit.applyAll_withUsed]
  rfl

namespace Piece

/-- The directives that stay. -/
def kept (pieces : List Piece) : List Directive :=
  pieces.filterMap fun
    | keep directive => some directive
    | _ => none

/-- The presets that are visited, in order. -/
def entered (pieces : List Piece) : List String :=
  pieces.filterMap fun
    | enter name => some name
    | _ => none

/-- The presets to which references are deleted, in order. -/
def deleted (pieces : List Piece) : List String :=
  pieces.filterMap fun
    | delete name => some name
    | _ => none

/-- What a run does at a piece. -/
def step : Piece → Step
  | keep directive =>
    match Keyword.ofName? directive.name with
    | some (.setting setting) => .set setting directive.arguments
    | _ => .halt (.unknownDirective directive.name)
  | enter name => .enter name
  | delete name => .passOver name
  | unknown name => .halt (.unknownPreset name)

/-- The pieces that a run on some options comes to, up to the first one that is rejected. -/
def reached (now : Int) : List Piece → Options → List Piece
  | [], _ => []
  | piece :: pieces, options =>
    let outcome := piece.step.apply now options
    piece :: match outcome.rejection? with
      | some _ => []
      | none => reached now pieces outcome.options

/-- What a run comes to behind a piece that is not rejected. -/
theorem mem_reached_cons {now : Int} {piece other : Piece} {pieces : List Piece}
    {options : Options} {outcome : Outcome} (made : piece.step.apply now options = outcome)
    (accepted : outcome.rejection? = none) (later : other ∈ reached now pieces outcome.options) :
    other ∈ reached now (piece :: pieces) options := by
  simp only [reached, made, accepted]
  exact List.mem_cons_of_mem piece later

/-- Behind a preset that is visited, a run goes on with that preset used. -/
theorem reached_enter (now : Int) (name : String) (pieces : List Piece) (options : Options)
    (used : List String) :
    reached now (.enter name :: pieces) (options.withUsed used) =
      .enter name :: reached now pieces (options.withUsed (used ++ [name])) := rfl

theorem reached_delete (now : Int) (name : String) (pieces : List Piece) (options : Options) :
    reached now (.delete name :: pieces) options = .delete name :: reached now pieces options := rfl

/-- A directive that stays is given to its setting, or the run ends because there is none. -/
theorem step_keep (directive : Directive) :
    (∃ setting, Keyword.ofName? directive.name = some (.setting setting) ∧
      (keep directive).step = .set setting directive.arguments) ∨
    ((Keyword.ofName? directive.name = none ∨ Keyword.ofName? directive.name = some .preset) ∧
      (keep directive).step = .halt (.unknownDirective directive.name)) := by
  rw [step]
  cases Keyword.ofName? directive.name with
  | none => simp
  | some keyword => cases keyword <;> simp

end Piece

namespace Presets

/-- The pieces of some directives when some presets have been visited before. -/
def flatten (presets : Presets) (visited : List String) (directives : List Directive) :
    List Piece :=
  match directives with
  | [] => []
  | directive :: rest =>
    if Keyword.ofName? directive.name = some .preset then
      match _ : directive.arguments with
      | [] => flatten presets visited rest
      | name :: names =>
        let later := { directive with arguments := names } :: rest
        match _ : presets.find? name with
        | none => .unknown name :: flatten presets visited later
        | some inside =>
          if name ∈ visited then .delete name :: flatten presets visited later
          else
            let pieces := flatten presets (visited ++ [name]) inside
            .enter name :: pieces ++
              flatten presets (visited ++ [name] ++ Piece.entered pieces) later
    else .keep directive :: flatten presets visited rest
termination_by (presets.unused visited, weight directives)
decreasing_by
  · exact Prod.Lex.right _ (by simp [weight])
  · exact Prod.Lex.right _ (by simp_all [weight])
  · exact Prod.Lex.right _ (by simp_all [weight])
  · exact Prod.Lex.left _ _ (unused_append_lt (mem_names_of_find? (by assumption)) (by assumption))
  · have entered := unused_append_lt (mem_names_of_find? (by assumption)) (by assumption)
    exact Prod.Lex.left _ _ (Nat.lt_of_le_of_lt (unused_append_le presets _ _) entered)
  · exact Prod.Lex.right _ (by simp [weight])

variable {presets : Presets} {now : Int}

/-! ### A run makes the steps of its pieces -/

/-- The presets used after pieces that are not rejected are those used before and those visited. -/
theorem usedPresets_applyAll_step {pieces : List Piece} {options : Options}
    (accepted : (Step.applyAll now (pieces.map Piece.step) options).rejection? = none) :
    (Step.applyAll now (pieces.map Piece.step) options).options.usedPresets =
      options.usedPresets ++ Piece.entered pieces := by
  induction pieces generalizing options with
  | nil => simp [Piece.entered]
  | cons piece pieces ih =>
      rw [List.map_cons, Step.applyAll_cons] at accepted ⊢
      obtain ⟨first, rest⟩ := Outcome.rejection?_andThen_eq_none.1 accepted
      rw [Outcome.options_andThen first, ih rest]
      cases piece with
      | keep directive =>
          rcases Piece.step_keep directive with ⟨setting, -, step⟩ | ⟨-, step⟩
          · rw [step, Step.apply, Script.usedPresets_run]
            rfl
          · rw [step] at first
            cases first
      | enter name => simp [Piece.step, Step.apply, Piece.entered, Options.use]
      | delete name => rfl
      | unknown name => cases first

theorem run_eq_applyAll_flatten (presets : Presets) (now : Int) (directives : List Directive)
    (options : Options) :
    presets.run now directives options =
      Step.applyAll now ((presets.flatten options.usedPresets directives).map Piece.step)
        options := by
  generalize same : options.usedPresets = visited
  fun_induction presets.flatten visited directives generalizing options with
  | case1 visited => simp
  | case2 visited directive rest asks arguments ih =>
      rw [run_preset_nil asks arguments, ih options same]
  | case3 visited directive rest asks name names arguments later missing ih =>
      rw [run_preset_unknown asks arguments missing, List.map_cons, Piece.step, Step.applyAll_halt]
  | case4 visited directive rest asks name names arguments later inside found again ih =>
      subst same
      rw [run_preset_used asks arguments found again, ih options rfl, List.map_cons, Piece.step,
        Step.applyAll_passOver]
  | case5 visited directive rest asks name names arguments later inside found fresh pieces ih₁ ih₂ =>
      subst same
      rw [run_preset_fresh asks arguments found fresh, run_append, ih₁ (options.use name) rfl,
        List.cons_append, List.map_cons, Piece.step, Step.applyAll_enter, List.map_append,
        Step.applyAll_append]
      cases rejected : (Step.applyAll now (pieces.map Piece.step) (options.use name)).rejection? with
      | some rejection =>
          rw [Outcome.andThen_of_some rejected, Outcome.andThen_of_some rejected]
      | none =>
          have used := usedPresets_applyAll_step rejected
          exact Outcome.andThen_congr (ih₂ _ used)
  | case6 visited directive rest other ih =>
      subst same
      rw [List.map_cons]
      rcases Piece.step_keep directive with ⟨setting, known, step⟩ | ⟨none | asks, step⟩
      · rw [run_setting known, step, Step.applyAll_cons, Step.apply]
        exact Outcome.andThen_congr (ih _ (Script.usedPresets_run _ _))
      · rw [run_unknown none, step, Step.applyAll_halt]
      · exact absurd asks other

/-! ### The steps compared with the directives that stay -/

theorem ofName?_ne_preset_of_mem_kept_flatten (visited : List String) (directives : List Directive) :
    ∀ directive ∈ Piece.kept (presets.flatten visited directives),
      Keyword.ofName? directive.name ≠ some .preset := by
  fun_induction presets.flatten visited directives with
  | case1 visited => exact nofun
  | case2 visited directive rest asks arguments ih => exact ih
  | case3 visited directive rest asks name names arguments later missing ih => exact ih
  | case4 visited directive rest asks name names arguments later inside found again ih => exact ih
  | case5 visited directive rest asks name names arguments later inside found fresh pieces ih₁ ih₂ =>
      have split : Piece.kept (.enter name :: pieces ++
          presets.flatten (visited ++ [name] ++ Piece.entered pieces) later) =
        Piece.kept pieces ++ Piece.kept
          (presets.flatten (visited ++ [name] ++ Piece.entered pieces) later) :=
        List.filterMap_append
      rw [split]
      exact List.forall_mem_append.2 ⟨ih₁, ih₂⟩
  | case6 visited directive rest other ih =>
      exact List.forall_mem_cons.2 ⟨other, ih⟩

/-- A run has the rejection of a plain run, its options up to the presets used, and its warnings
up to those that presets have been used before; what is different comes from the pieces reached. -/
structure Refines (outcome plain : Outcome) (used : List String) (reached : List Piece) : Prop where
  rejection? : outcome.rejection? = plain.rejection?
  options : outcome.options = plain.options.withUsed (used ++ Piece.entered reached)
  repeated : outcome.warnings.filterMap Warning.repeated? = Piece.deleted reached
  others : outcome.warnings.filter (fun warning => warning.repeated?.isNone) = plain.warnings

namespace Refines

variable {outcome plain : Outcome} {used : List String} {reached : List Piece}

theorem same (outcome : Outcome) (used : List String)
    (quiet : ∀ warning ∈ outcome.warnings, warning.repeated? = none) :
    Refines (outcome.withUsed used) outcome used [] where
  rejection? := rfl
  options := by rw [Outcome.options_withUsed, Piece.entered, List.filterMap_nil, List.append_nil]
  repeated := List.filterMap_eq_nil_iff.2 quiet
  others := List.filter_eq_self.2 (by simpa using quiet)

theorem after {warnings : List Warning} (refines : Refines outcome plain used reached)
    (quiet : ∀ warning ∈ warnings, warning.repeated? = none) :
    Refines (outcome.after warnings) (plain.after warnings) used reached where
  rejection? := refines.rejection?
  options := refines.options
  repeated := by
    rw [Outcome.warnings_after, List.filterMap_append, List.filterMap_eq_nil_iff.2 quiet,
      refines.repeated, List.nil_append]
  others := by
    have all : ∀ warning ∈ warnings, warning.repeated?.isNone = true := by simpa using quiet
    rw [Outcome.warnings_after, List.filter_append, List.filter_eq_self.2 all, refines.others,
      Outcome.warnings_after]

/-- A part of a run that leaves the presets alone, and what follows it. -/
theorem andThen {next plainNext : Options → Outcome} (outcome : Outcome)
    (quiet : ∀ warning ∈ outcome.warnings, warning.repeated? = none)
    (later : outcome.rejection? = none →
      Refines (next (outcome.options.withUsed used)) (plainNext outcome.options) used reached) :
    Refines ((outcome.withUsed used).andThen next) (outcome.andThen plainNext) used
      (match outcome.rejection? with
        | some _ => []
        | none => reached) := by
  have unchanged := outcome.rejection?_withUsed used
  cases rejected : outcome.rejection? with
  | some rejection =>
      rw [Outcome.andThen_of_some (unchanged.trans rejected), Outcome.andThen_of_some rejected]
      exact same outcome used quiet
  | none =>
      rw [Outcome.andThen_of_none (unchanged.trans rejected), Outcome.andThen_of_none rejected]
      exact (later rejected).after quiet

theorem keep (refines : Refines outcome plain used reached) (directive : Directive) :
    Refines outcome plain used (.keep directive :: reached) :=
  { refines with }

theorem enter {name : String} (refines : Refines outcome plain (used ++ [name]) reached) :
    Refines outcome plain used (.enter name :: reached) where
  rejection? := refines.rejection?
  options := by
    rw [refines.options, List.append_assoc]
    rfl
  repeated := refines.repeated
  others := refines.others

theorem delete (refines : Refines outcome plain used reached) (name : String) :
    Refines (outcome.after [.presetAlreadyUsed name]) plain used (.delete name :: reached) where
  rejection? := refines.rejection?
  options := refines.options
  repeated := by
    rw [Outcome.warnings_after, List.filterMap_append, refines.repeated]
    rfl
  others := refines.others

end Refines

theorem refines_applyAll_step (pieces : List Piece) (options : Options) (used : List String)
    (plain : ∀ directive ∈ Piece.kept pieces, Keyword.ofName? directive.name ≠ some .preset)
    (known : ∀ name, .unknown name ∉ Piece.reached now pieces (options.withUsed used)) :
    Refines (Step.applyAll now (pieces.map Piece.step) (options.withUsed used))
      (empty.run now (Piece.kept pieces) options) used
      (Piece.reached now pieces (options.withUsed used)) := by
  induction pieces generalizing options used with
  | nil =>
      rw [Piece.kept, List.filterMap_nil, run_nil]
      exact .same { options, warnings := [], rejection? := none } used nofun
  | cons piece pieces ih =>
      cases piece with
      | keep directive =>
          obtain ⟨other, plain⟩ := List.forall_mem_cons.1 plain
          change Refines _ (empty.run now (directive :: Piece.kept pieces) options) _ _
          rw [List.map_cons]
          rcases Piece.step_keep directive with ⟨setting, isSetting, step⟩ | ⟨none | asks, step⟩
          · have quiet : ∀ warning ∈
                ((setting.script now directive.arguments).run options).warnings,
                  warning.repeated? = none :=
              (Setting.composed_script now setting directive.arguments).repeated?_eq_none
            have made : (Piece.keep directive).step.apply now (options.withUsed used) =
                ((setting.script now directive.arguments).run options).withUsed used := by
              rw [step, Step.apply_set_withUsed]
            rw [run_setting isSetting, Step.applyAll_cons, Piece.reached, made]
            refine .keep (.andThen _ quiet fun accepted => ?_) directive
            exact ih _ used plain fun name mem =>
              known name (Piece.mem_reached_cons made accepted mem)
          · rw [run_unknown none, step, Step.applyAll_halt, Piece.reached, step]
            exact .keep (.same { options, warnings := [], rejection? := some _ } used nofun) directive
          · exact absurd asks other
      | enter name =>
          have entered : (options.withUsed used).use name = options.withUsed (used ++ [name]) := rfl
          rw [Piece.reached_enter] at known ⊢
          rw [List.map_cons, Piece.step, Step.applyAll_enter, entered]
          refine .enter (ih options (used ++ [name]) plain fun name mem => ?_)
          exact known name (List.mem_cons_of_mem _ mem)
      | delete name =>
          rw [Piece.reached_delete] at known ⊢
          rw [List.map_cons, Piece.step, Step.applyAll_passOver]
          refine .delete (ih options used plain fun name mem => ?_) name
          exact known name (List.mem_cons_of_mem _ mem)
      | unknown name => exact absurd (List.mem_singleton.2 rfl) (known name)

theorem reached_of_accepted {pieces : List Piece} {options : Options}
    (accepted : (Step.applyAll now (pieces.map Piece.step) options).rejection? = none) :
    Piece.reached now pieces options = pieces := by
  induction pieces generalizing options with
  | nil => rfl
  | cons piece pieces ih =>
      rw [List.map_cons, Step.applyAll_cons] at accepted
      obtain ⟨first, rest⟩ := Outcome.rejection?_andThen_eq_none.1 accepted
      simp only [Piece.reached, first, ih rest]

/-- Running directives is running what their flat expansion keeps of them, with no presets defined,
as long as the run comes to no reference to an unknown preset: both end with the same rejection or
with none, and leave the same options up to the presets used, which grow by those visited. There is
a warning that a preset has been used before for each deleted reference that the run comes to, in
order, and a run that is not rejected comes to all of them. -/
theorem run_eq_run_flatten (presets : Presets) (now : Int) (directives : List Directive)
    (options : Options)
    (known : ∀ name, .unknown name ∉
      Piece.reached now (presets.flatten options.usedPresets directives) options) :
    let pieces := presets.flatten options.usedPresets directives
    let outcome := presets.run now directives options
    (∀ directive ∈ Piece.kept pieces, Keyword.ofName? directive.name ≠ some .preset) ∧
    Refines outcome (empty.run now (Piece.kept pieces) options) options.usedPresets
      (Piece.reached now pieces options) ∧
    (outcome.rejection? = none → Piece.reached now pieces options = pieces) := by
  intro pieces outcome
  have plain := presets.ofName?_ne_preset_of_mem_kept_flatten options.usedPresets directives
  have same : outcome = Step.applyAll now (pieces.map Piece.step) options :=
    run_eq_applyAll_flatten presets now directives options
  refine ⟨plain, ?_, ?_⟩
  · rw [same]
    exact refines_applyAll_step pieces options options.usedPresets plain known
  · intro accepted
    rw [same] at accepted
    exact reached_of_accepted accepted

/-- Both ends of a circle, and a reference to an undefined preset behind a width that is none. -/
def tour : List Directive :=
  [{ name := "pr", arguments := ["a", "b"] }, { name := "w", arguments := ["x"] },
    { name := "pr", arguments := ["c"] }]

/-- The pieces that a run of the tour comes to. -/
def toured : List Piece :=
  [.enter "a", .keep { name := "w", arguments := ["10"] }, .enter "b",
    .keep { name := "h", arguments := ["20"] }, .delete "a", .delete "b",
    .keep { name := "w", arguments := ["x"] }]

/-- The walk deletes the references back into the circle, and the run ends before the undefined
preset. -/
theorem refines_run_tour :
    let options := Options.start true true true []
    (∀ name, .unknown name ∉
      Piece.reached 0 (circle.flatten options.usedPresets tour) options) ∧
    circle.flatten options.usedPresets tour = toured ++ [.unknown "c"] ∧
    Refines (circle.run 0 tour options) (empty.run 0 (Piece.kept toured) options)
      options.usedPresets toured := by
  intro options
  have walk : circle.flatten [] tour = toured ++ [.unknown "c"] := by cbv
  have seen : Piece.reached 0 (circle.flatten options.usedPresets tour) options = toured := by
    change Piece.reached 0 (circle.flatten [] tour) options = toured
    rw [walk]
    decide +kernel
  have known : ∀ name, .unknown name ∉
      Piece.reached 0 (circle.flatten options.usedPresets tour) options := by
    rw [seen]
    simp [toured]
  have kept : Piece.kept (circle.flatten options.usedPresets tour) = Piece.kept toured := by
    change Piece.kept (circle.flatten [] tour) = Piece.kept toured
    rw [walk]
    rfl
  have statement := (run_eq_run_flatten circle 0 tour options known).2.1
  rw [kept, seen] at statement
  exact ⟨known, walk, statement⟩

end Presets

end ImageRequest

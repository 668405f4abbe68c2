import ImageRequest.Proofs.Presets.Run
import ImageRequest.Proofs.Resolver.Request

/-!
# Requests from related options

A relation between options that every edit keeps, and every use of a preset that is asked for, is
kept by whole runs: two runs of the same directives from related options give the same warnings and
the same rejection, or related options (`run_agree`). The answers to two requests are related in
the same way.

What is asked for is given by a condition on names, which all directives of a run and of the presets
have to meet. Related options must agree on whether such a preset is used.
-/

namespace ImageRequest

/-- A directive that asks only for presets whose names meet a condition. -/
def Directive.AsksOnly (asked : String → Prop) (directive : Directive) : Prop :=
  Keyword.ofName? directive.name = some .preset → ∀ preset ∈ directive.arguments, asked preset

/-- The presets ask for each other only where the names meet a condition. -/
def Presets.AskOnly (asked : String → Prop) (presets : Presets) : Prop :=
  ∀ name directives, presets.find? name = some directives →
    ∀ directive ∈ directives, directive.AsksOnly asked

variable {asked : String → Prop}

theorem Directive.asksOnly_of_forall (all : ∀ name, asked name) {directive : Directive} :
    directive.AsksOnly asked :=
  fun _ preset _ => all preset

theorem Presets.askOnly_of_forall (all : ∀ name, asked name) {presets : Presets} :
    presets.AskOnly asked :=
  fun _ _ _ _ _ => Directive.asksOnly_of_forall all

/-- A relation between options that is kept by all edits and by the use of presets whose names meet
a condition. -/
structure Options.IsKept (asked : String → Prop) (Related : Options → Options → Prop) : Prop where
  apply (edit : Edit) {first second : Options} :
    Related first second → Related (edit.apply first) (edit.apply second)
  use {preset : String} {first second : Options} :
    asked preset → Related first second → Related (first.use preset) (second.use preset)
  mem_used {preset : String} {first second : Options} :
    asked preset → Related first second →
      (preset ∈ first.usedPresets ↔ preset ∈ second.usedPresets)

/-- Two outcomes with the same warnings that end with the same rejection or with related options. -/
structure Outcome.Agree (Related : Options → Options → Prop) (first second : Outcome) : Prop where
  warnings : first.warnings = second.warnings
  rejection? : first.rejection? = second.rejection?
  options : first.rejection? = none → Related first.options second.options

variable {Related Later : Options → Options → Prop}

namespace Outcome.Agree

variable {first second : Outcome} {next next' : Options → Outcome}

theorem rejected (options options' : Options) (rejection : Rejection) :
    Agree Related { options, warnings := [], rejection? := some rejection }
      { options := options', warnings := [], rejection? := some rejection } where
  warnings := rfl
  rejection? := rfl
  options := nofun

theorem after (agree : first.Agree Related second) (warnings : List Warning) :
    (first.after warnings).Agree Related (second.after warnings) where
  warnings := congrArg (warnings ++ ·) agree.warnings
  rejection? := agree.rejection?
  options := agree.options

theorem andThen (agree : first.Agree Related second)
    (later : ∀ {options other : Options}, Related options other →
      (next options).Agree Later (next' other)) :
    (first.andThen next).Agree Later (second.andThen next') := by
  have rejections := agree.rejection?
  cases rejected : second.rejection? with
  | some rejection =>
      have rejected' := rejections.trans rejected
      rw [andThen_of_some rejected', andThen_of_some rejected]
      exact ⟨agree.warnings, rejections, fun accepted => nomatch rejected'.symm.trans accepted⟩
  | none =>
      have accepted := rejections.trans rejected
      rw [andThen_of_none accepted, andThen_of_none rejected, agree.warnings]
      exact (later (agree.options accepted)).after _

end Outcome.Agree

theorem Edit.applyAll_related (kept : Options.IsKept asked Related) (edits : List Edit)
    {first second : Options} (related : Related first second) :
    Related (applyAll edits first) (applyAll edits second) := by
  induction edits generalizing first second with
  | nil => exact related
  | cons edit edits ih => exact ih (kept.apply edit related)

theorem Handler.Runs.agree (kept : Options.IsKept asked Related) {handler : Handler Unit}
    {script : Script} (acts : handler.Runs script) {first second : Options}
    (related : Related first second) :
    (handler.run first).Agree Related (handler.run second) := by
  rw [acts.run_eq, acts.run_eq]
  exact ⟨rfl, rfl, fun _ => Edit.applyAll_related kept script.edits related⟩

namespace Presets

variable {presets : Presets} {now : Int}

/-- A run keeps what its steps keep. -/
theorem run_agree (kept : Options.IsKept asked Related) (inside : presets.AskOnly asked)
    {agenda : List Directive} (outside : ∀ directive ∈ agenda, directive.AsksOnly asked)
    {first second : Options} (related : Related first second) :
    (presets.run now agenda first).Agree Related (presets.run now agenda second) := by
  -- along the first run; the second one takes the same branches
  fun_induction presets.run now agenda first generalizing second with
  | case1 first =>
      rw [run_nil]
      exact ⟨rfl, rfl, fun _ => related⟩
  | case2 first directive agenda unknown =>
      rw [run_unknown unknown]
      exact .rejected first second _
  | case3 first directive agenda setting known outcome rejection rejected =>
      have start := (Setting.runs_handle now setting directive.arguments).agree kept related
      rw [run_handler known, Outcome.andThen_of_some (start.rejection?.symm.trans rejected)]
      exact start
  | case4 first directive agenda setting known outcome accepted ih =>
      have start := (Setting.runs_handle now setting directive.arguments).agree kept related
      rw [run_handler known, Outcome.andThen_of_none (start.rejection?.symm.trans accepted),
        ← start.warnings]
      exact (ih (List.forall_mem_cons.1 outside).2 (start.options accepted)).after _
  | case5 first directive agenda known arguments ih =>
      rw [run_preset_nil known arguments]
      exact ih (List.forall_mem_cons.1 outside).2 related
  | case6 first directive agenda known name names arguments missing =>
      rw [run_preset_unknown known arguments missing]
      exact .rejected first second _
  | case7 first directive agenda known name names arguments later directives found used ih =>
      obtain ⟨asks, others⟩ := List.forall_mem_cons.1 outside
      have names' := asks known
      rw [arguments] at names'
      obtain ⟨asksName, asksNames⟩ := List.forall_mem_cons.1 names'
      rw [run_preset_used known arguments found ((kept.mem_used asksName related).1 used)]
      refine (ih ?_ related).after _
      exact List.forall_mem_cons.2 ⟨fun _ => asksNames, others⟩
  | case8 first directive agenda known name names arguments later directives found fresh ih =>
      obtain ⟨asks, others⟩ := List.forall_mem_cons.1 outside
      have names' := asks known
      rw [arguments] at names'
      obtain ⟨asksName, asksNames⟩ := List.forall_mem_cons.1 names'
      rw [run_preset_fresh known arguments found
        fun used => fresh ((kept.mem_used asksName related).2 used)]
      refine ih ?_ (kept.use asksName related)
      refine List.forall_mem_append.2 ⟨inside name directives found, ?_⟩
      exact List.forall_mem_cons.2 ⟨fun _ => asksNames, others⟩

end Presets

/-! ### Answers -/

/-- Two answers with the same warnings: either both requests fail for the same reason, or both go
through with the same address and related options. -/
inductive Resolution.Agree (Related : Options → Options → Prop) : Resolution → Resolution → Prop
  | failed (warnings : List Warning) (error : RequestError) :
    Agree Related { warnings, result := .error error } { warnings, result := .error error }
  | resolved (warnings : List Warning) (url : String) {options other : Options} :
    Related options other →
      Agree Related { warnings, result := .ok { options, url } }
        { warnings, result := .ok { options := other, url } }

namespace Resolver

theorem finish_agree (kept : Options.IsKept asked Related) (source : Source)
    {first second : Options} (related : Related first second) :
    (finish source first).Agree Related (finish source second) := by
  rw [finish, finish]
  cases source.extension? with
  | none => exact ⟨rfl, rfl, fun _ => related⟩
  | some extension => exact (Handler.Runs.format [extension]).agree kept related

theorem complete_agree (kept : Options.IsKept asked Related) (resolver : Resolver)
    {first second : Outcome} (agree : first.Agree Related second) (segments : List String) :
    (resolver.complete first segments).Agree Related (resolver.complete second segments) := by
  rw [complete, complete, agree.rejection?, agree.warnings]
  cases second.rejection? with
  | some rejection => exact .failed _ _
  | none =>
      cases resolver.decodeSource segments with
      | error error => exact .failed _ _
      | ok source =>
          have final : (first.andThen (finish source)).Agree Related
              (second.andThen (finish source)) := agree.andThen (finish_agree kept source)
          simp only [final.rejection?, final.warnings]
          cases rejected : (second.andThen (finish source)).rejection? with
          | some rejection => exact .failed _ _
          | none => exact .resolved _ _ (final.options (final.rejection?.trans rejected))

end Resolver

end ImageRequest

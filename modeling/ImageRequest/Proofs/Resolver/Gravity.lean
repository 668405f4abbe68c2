import ImageRequest.Proofs.Gravity.Placement
import ImageRequest.Proofs.Presets.Flat
import ImageRequest.Proofs.Resolver.Request
import ImageRequest.Proofs.Setting.Valid

/-!
# Offsets of resolved requests

The options hold three gravities that requests can change. Each of them ends up as what its
placements leave, in the order in which the directives of the request make them, with presets
replaced by their directives. Every one of these placements was accepted for its own anchor.

`legal_gravity_iff` says for which requests that go through the offsets are legal in the end.
`illegal_gravity_plain` is a request for which they are not.
-/

namespace ImageRequest

/-- The gravities of the options that requests can change by placements. -/
inductive Target where
  | result
  | crop
  | extension
deriving Repr, DecidableEq

namespace Target

/-- The gravity at a target. -/
def gravity : Target → Options → Gravity
  | result, options => options.gravity
  | crop, options => options.crop.gravity
  | extension, options => options.extension.gravity

/-- The placement that an edit makes at a target. -/
def placement? : Target → Edit → Option Placement
  | result, .gravity placement => some placement
  | crop, .crop (.gravity placement) => some placement
  | extension, .extension (.gravity placement) => some placement
  | _, _ => none

/-- The placements that some edits make at a target. -/
def placements (target : Target) (edits : List Edit) : List Placement :=
  edits.filterMap target.placement?

theorem gravity_apply (target : Target) (edit : Edit) (options : Options) :
    target.gravity (edit.apply options) =
      (target.gravity options).placeAll (target.placement? edit).toList := by
  cases target with
  | result => cases edit <;> rfl
  | crop =>
      cases edit with
      | crop edit => cases edit <;> rfl
      | _ => rfl
  | extension =>
      cases edit with
      | extension edit => cases edit <;> rfl
      | _ => rfl

theorem gravity_applyAll (target : Target) (edits : List Edit) (options : Options) :
    target.gravity (Edit.applyAll edits options) =
      (target.gravity options).placeAll (target.placements edits) := by
  induction edits generalizing options with
  | nil => rfl
  | cons edit edits ih =>
      rw [Edit.applyAll_cons, ih, gravity_apply, placements, placements, List.filterMap_cons]
      cases target.placement? edit <;> rfl

theorem sound_of_placement? {target : Target} {edit : Edit} {placement : Placement}
    (sound : edit.Sound) (made : target.placement? edit = some placement) : placement.Sound := by
  cases target with
  | result =>
      cases edit <;> cases made
      exact sound
  | crop =>
      cases edit with
      | crop edit =>
          cases edit <;> cases made
          exact sound
      | _ => cases made
  | extension =>
      cases edit with
      | extension edit =>
          cases edit <;> cases made
          exact sound.1
      | _ => cases made

end Target

/-- Every placement of a setting that is not rejected is sound. -/
theorem Setting.sound_placements {now : Int} {setting : Setting} {arguments : List String}
    (accepted : (setting.script now arguments).rejection? = none) (target : Target) :
    ∀ placement ∈ target.placements (setting.script now arguments).edits, placement.Sound := by
  intro placement mem
  obtain ⟨edit, among, made⟩ := List.mem_filterMap.1 mem
  by_cases padding : setting = .padding
  · -- the edits of a padding place nothing
    subst padding
    obtain ⟨change, rfl⟩ := Script.exists_of_mem_edits_padding accepted among
    cases target <;> cases made
  · exact Target.sound_of_placement? (Setting.sound_script now padding arguments accepted edit among)
      made

namespace Step

/-- The placements that some steps make at a target. -/
def placements (now : Int) (target : Target) (steps : List Step) : List Placement :=
  steps.flatMap fun step => target.placements (step.edits now)

theorem gravity_apply (now : Int) (target : Target) (step : Step) (options : Options) :
    target.gravity (step.apply now options).options =
      (target.gravity options).placeAll (target.placements (step.edits now)) := by
  cases step with
  | set setting arguments => exact target.gravity_applyAll _ options
  | enter name => cases target <;> rfl
  | passOver name => rfl
  | halt rejection => rfl

/-- Steps that are all made leave at a target what their placements leave, each of them sound. -/
theorem gravity_applyAll {now : Int} (target : Target) {steps : List Step} {options : Options}
    (accepted : (applyAll now steps options).rejection? = none) :
    target.gravity (applyAll now steps options).options =
        (target.gravity options).placeAll (placements now target steps) ∧
      ∀ placement ∈ placements now target steps, placement.Sound := by
  induction steps generalizing options with
  | nil => exact ⟨rfl, nofun⟩
  | cons step steps ih =>
      rw [applyAll_cons] at accepted ⊢
      obtain ⟨first, rest⟩ := Outcome.rejection?_andThen_eq_none.1 accepted
      obtain ⟨left, sound⟩ := ih rest
      constructor
      · rw [Outcome.options_andThen first, left, gravity_apply, ← Gravity.placeAll_append]
        rfl
      · intro placement mem
        rw [placements, List.flatMap_cons] at mem
        rcases List.mem_append.1 mem with mem | mem
        · cases step with
          | set setting arguments => exact Setting.sound_placements first target placement mem
          | enter name => cases mem
          | passOver name => cases mem
          | halt rejection => cases mem
        · exact sound placement mem

end Step

namespace Presets

/-- The placements that the directives of an agenda make at a target, when no preset has been used
before. -/
def placements (presets : Presets) (now : Int) (target : Target) (agenda : List Directive) :
    List Placement :=
  Step.placements now target (presets.steps agenda [])

/-- A run that is not rejected leaves at a target what its placements leave, each of them sound. -/
theorem gravity_run {presets : Presets} {now : Int} (target : Target) {agenda : List Directive}
    {options : Options} (fresh : options.usedPresets = [])
    (accepted : (presets.run now agenda options).rejection? = none) :
    target.gravity (presets.run now agenda options).options =
        (target.gravity options).placeAll (presets.placements now target agenda) ∧
      ∀ placement ∈ presets.placements now target agenda, placement.Sound := by
  rw [run_eq_applyAll_steps, fresh] at accepted ⊢
  exact Step.gravity_applyAll target accepted

end Presets

namespace Resolver

variable {resolver : Resolver} {now : Int} {headers : Headers}

/-- The placements that the directives of a path make at a target, those of the default preset
before them. -/
def placements (resolver : Resolver) (now : Int) (target : Target) (path : String) :
    List Placement :=
  resolver.presets.placements now target (resolver.agenda path)

theorem Built.gravity_initialOptions (built : resolver.Built) (headers : Headers)
    (target : Target) : target.gravity (resolver.initialOptions headers) = .at .center := by
  obtain ⟨preferWebp, enforceWebp, preferAvif, enforceAvif, width, dpr, same⟩ :=
    built.exists_initialOptions headers
  rw [same]
  cases target <;> rfl

theorem gravity_finish (source : Source) (options : Options) (target : Target) :
    target.gravity (finish source options).options = target.gravity options := by
  obtain ⟨format?, same⟩ := exists_options_finish source options
  rw [same]
  cases target <;> rfl

/-- A request that goes through leaves at a target what its placements leave, each of them sound. -/
theorem gravity_of_resolve (built : resolver.Built) {path : String} {resolved : ResolvedRequest}
    (ok : (resolver.resolve now headers path).result = .ok resolved) (target : Target) :
    target.gravity resolved.options =
        (Gravity.at .center).placeAll (resolver.placements now target path) ∧
      ∀ placement ∈ resolver.placements now target path, placement.Sound := by
  obtain ⟨source, -, accepted, rfl⟩ := exists_finish_of_resolve ok
  have fresh := built.usedPresets_initialOptions headers
  obtain ⟨left, sound⟩ := Presets.gravity_run target fresh accepted
  refine ⟨?_, sound⟩
  rw [gravity_finish, left, built.gravity_initialOptions]
  rfl

/-- Of a request that goes through, with a signature or without, the offsets at a target are legal
exactly if along neither axis the last one strays among the placements of the path that is
resolved. -/
theorem legal_gravity_iff (built : resolver.Built) (now : Int) (headers : Headers)
    (target : Target) :
    (∀ path resolved, (resolver.resolve now headers path).result = .ok resolved →
      ((target.gravity resolved.options).Legal ↔
        ∀ axis, ¬ Placement.Strays axis (resolver.placements now target path))) ∧
    (∀ path resolved, (resolver.resolveSigned now headers path).result = .ok resolved →
      ∃ signature unsigned, splitSignature? path = some (signature, unsigned) ∧
        ((target.gravity resolved.options).Legal ↔
          ∀ axis, ¬ Placement.Strays axis (resolver.placements now target unsigned))) := by
  have legal : ∀ path resolved, (resolver.resolve now headers path).result = .ok resolved →
      ((target.gravity resolved.options).Legal ↔
        ∀ axis, ¬ Placement.Strays axis (resolver.placements now target path)) := by
    intro path resolved ok
    obtain ⟨left, sound⟩ := gravity_of_resolve built ok target
    rw [left]
    exact Gravity.legal_placeAll_iff sound
  refine ⟨legal, ?_⟩
  intro path resolved ok
  obtain ⟨signature, unsigned, split, ok⟩ := resolve_of_resolveSigned ok
  exact ⟨signature, unsigned, split, legal unsigned resolved ok⟩

/-- An offset that is given again does not stray, nor does one that the next anchor accepts. -/
theorem legal_gravity_plain :
    plain.Built ∧
      ∃ resolved, (plain.resolve 0 [] "/g:ce:-10:3/g:no:4/plain/a").result = .ok resolved ∧
        resolved.options.gravity.Legal ∧
        ∀ axis, ¬ Placement.Strays axis
          (plain.placements 0 .result "/g:ce:-10:3/g:no:4/plain/a") := by
  have evaluated : ∃ resolved,
      (plain.resolve 0 [] "/g:ce:-10:3/g:no:4/plain/a").result = .ok resolved ∧
        decide resolved.options.gravity.Legal = true :=
    exists_resolve_plain (fun options => decide options.gravity.Legal) (by decide)
      (by decide +kernel) (by decide +kernel)
  obtain ⟨resolved, ok, legal⟩ := evaluated
  have statement := (legal_gravity_iff built_plain 0 [] .result).1 _ resolved ok
  have legal := of_decide_eq_true legal
  exact ⟨built_plain, resolved, ok, legal, statement.1 legal⟩

/-- A request may leave a negative offset of the center at another anchor. -/
theorem illegal_gravity_plain :
    plain.Built ∧
      ∃ resolved, (plain.resolve 0 [] "/g:ce:-10/g:no/plain/a").result = .ok resolved ∧
        resolved.options.gravity = { anchor := .north, x := -10.0, y := 0.0 } ∧
        ¬ resolved.options.gravity.Legal := by
  have evaluated : ∃ resolved,
      (plain.resolve 0 [] "/g:ce:-10/g:no/plain/a").result = .ok resolved ∧
        resolved.options.gravity = { anchor := .north, x := -10.0, y := 0.0 } :=
    exists_resolve_plain Options.gravity (by decide) (by decide +kernel) (by decide +kernel)
  obtain ⟨resolved, ok, left⟩ := evaluated
  refine ⟨built_plain, resolved, ok, left, ?_⟩
  rw [left]
  decide +kernel

end Resolver

end ImageRequest

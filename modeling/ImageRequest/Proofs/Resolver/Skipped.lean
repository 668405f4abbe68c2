import ImageRequest.Proofs.Presets.Check
import ImageRequest.Proofs.Presets.Flat
import ImageRequest.Proofs.Resolver.Request
import ImageRequest.Proofs.Setting.Fields

/-!
# Lists that only grow

Two fields of the options are lists: the formats that are passed on as they are and the presets
used. Nothing that a run does takes anything out of them or puts anything in front, and this holds
of runs that are rejected as well, whose edits before the rejection stand (`Presets.extends_run`).
So the formats of a request are those of the configuration and behind them one for each token of its
directives to skip processing, in the order in which these are run (`skippedFormats_of_resolve`).
-/

namespace ImageRequest

/-! ### Nothing is taken out of the lists -/

/-- The lists of some options begin with those of others. -/
structure Options.Extends (before after : Options) : Prop where
  skippedFormats : before.skippedFormats <+: after.skippedFormats
  usedPresets : before.usedPresets <+: after.usedPresets

namespace Options.Extends

theorem refl (options : Options) : options.Extends options :=
  ⟨List.prefix_rfl, List.prefix_rfl⟩

theorem trans {first second third : Options} (before : first.Extends second)
    (after : second.Extends third) : first.Extends third :=
  ⟨before.skippedFormats.trans after.skippedFormats, before.usedPresets.trans after.usedPresets⟩

end Options.Extends

/-- The format that an edit adds to those that are passed on as they are. -/
def Edit.skipped? : Edit → Option ImageFormat
  | .skip value => some value
  | _ => none

theorem Edit.skipped?_of_field_ne {edit : Edit} (other : edit.field ≠ .skippedFormats) :
    edit.skipped? = none := by
  cases edit with
  | skip format => exact absurd rfl other
  | _ => rfl

theorem Edit.skippedFormats_apply (edit : Edit) (options : Options) :
    (edit.apply options).skippedFormats = options.skippedFormats ++ edit.skipped?.toList := by
  cases edit with
  | skip format => rfl
  | _ => exact (List.append_nil _).symm

theorem Edit.skippedFormats_applyAll (edits : List Edit) (options : Options) :
    (applyAll edits options).skippedFormats =
      options.skippedFormats ++ edits.filterMap skipped? := by
  induction edits generalizing options with
  | nil => exact (List.append_nil _).symm
  | cons edit edits ih =>
      rw [applyAll_cons, ih, skippedFormats_apply, List.append_assoc]
      cases edit with
      | skip format => rfl
      | _ => rfl

theorem Script.extends_run (script : Script) (options : Options) :
    options.Extends (script.run options).options where
  skippedFormats := by
    rw [run, Edit.skippedFormats_applyAll]
    exact List.prefix_append _ _
  usedPresets := by rw [usedPresets_run]

theorem Step.extends_apply (now : Int) (step : Step) (options : Options) :
    options.Extends (step.apply now options).options := by
  cases step with
  | set setting arguments => exact Script.extends_run _ options
  | enter name => exact ⟨List.prefix_rfl, List.prefix_append _ _⟩
  | passOver name => exact .refl options
  | halt rejection => exact .refl options

theorem Step.extends_applyAll (now : Int) (steps : List Step) (options : Options) :
    options.Extends (applyAll now steps options).options := by
  induction steps generalizing options with
  | nil => exact .refl options
  | cons step steps ih =>
      have first := step.extends_apply now options
      rw [applyAll_cons]
      cases rejected : (step.apply now options).rejection? with
      | some rejection => rwa [Outcome.andThen_of_some rejected]
      | none =>
          rw [Outcome.options_andThen rejected]
          exact first.trans (ih _)

/-- A run only adds to the lists, also where it ends with a rejection. -/
theorem Presets.extends_run (presets : Presets) (now : Int) (agenda : List Directive)
    (options : Options) : options.Extends (presets.run now agenda options).options := by
  rw [run_eq_applyAll_steps]
  exact Step.extends_applyAll now _ options

/-! ### What is added to the formats -/

/-- Each of some tokens names the format in its place. -/
def ImageFormat.AreNamed (tokens : List String) (formats : List ImageFormat) : Prop :=
  tokens.map ofName? = formats.map some

theorem ImageFormat.AreNamed.append {tokens tokens' : List String}
    {formats formats' : List ImageFormat} (first : AreNamed tokens formats)
    (second : AreNamed tokens' formats') : AreNamed (tokens ++ tokens') (formats ++ formats') := by
  rw [AreNamed, List.map_append, List.map_append, first, second]

theorem Token.format_eq_ok_iff {token : String} {format : ImageFormat} :
    Token.format token = .ok format ↔ ImageFormat.ofName? token = some format := by
  rw [Token.format]
  cases ImageFormat.ofName? token <;> simp

theorem Script.areNamed_skipProcessing {arguments : List String}
    (accepted : (skipProcessing arguments).rejection? = none) :
    ImageFormat.AreNamed arguments ((skipProcessing arguments).edits.filterMap Edit.skipped?) := by
  induction arguments with
  | nil => rfl
  | cons token arguments ih =>
      have shape : skipProcessing (token :: arguments) =
          store .skip (Token.format token) ++ skipProcessing arguments := rfl
      rw [shape] at accepted ⊢
      obtain ⟨first, others⟩ := rejection?_append_eq_none.1 accepted
      obtain ⟨format, read, written⟩ := store_eq_write first
      have named : ImageFormat.AreNamed [token] [format] :=
        congrArg (fun format? => [format?]) (Token.format_eq_ok_iff.1 read)
      rw [edits_append first, written, List.filterMap_append]
      exact named.append (ih others)

namespace Setting

/-- The tokens by which a setting is given formats to be passed on as they are. -/
def skipTokens (setting : Setting) (arguments : List String) : List String :=
  match setting with
  | skipProcessing => arguments
  | _ => []

/-- A setting that is not rejected adds the formats that its tokens name. -/
theorem areNamed_script {now : Int} {setting : Setting} {arguments : List String}
    (accepted : (setting.script now arguments).rejection? = none) :
    ImageFormat.AreNamed (setting.skipTokens arguments)
      ((setting.script now arguments).edits.filterMap Edit.skipped?) := by
  by_cases skips : setting = skipProcessing
  · subst skips
    exact Script.areNamed_skipProcessing accepted
  · have nothing : setting.skipTokens arguments = [] := by
      cases setting <;> first | rfl | exact absurd rfl skips
    have others : .skippedFormats ∉ setting.fields := by
      cases setting <;> first | decide | exact absurd rfl skips
    rw [nothing, filterMap_edits_eq_nil (fun _ => Edit.skipped?_of_field_ne) others accepted]
    rfl

end Setting

/-- The tokens by which a step is given formats to be passed on as they are. -/
def Step.skipTokens : Step → List String
  | set setting arguments => setting.skipTokens arguments
  | _ => []

/-- Steps that are all made add the formats that their tokens name, in order. -/
theorem Step.exists_areNamed {now : Int} {steps : List Step} {options : Options}
    (accepted : (applyAll now steps options).rejection? = none) :
    ∃ formats, ImageFormat.AreNamed (steps.flatMap skipTokens) formats ∧
      (applyAll now steps options).options.skippedFormats = options.skippedFormats ++ formats := by
  induction steps generalizing options with
  | nil => exact ⟨[], rfl, (List.append_nil _).symm⟩
  | cons step steps ih =>
      rw [applyAll_cons] at accepted ⊢
      obtain ⟨first, rest⟩ := Outcome.rejection?_andThen_eq_none.1 accepted
      obtain ⟨later, named', added'⟩ := ih rest
      have own : ∃ formats, ImageFormat.AreNamed step.skipTokens formats ∧
          (step.apply now options).options.skippedFormats =
            options.skippedFormats ++ formats := by
        cases step with
        | set setting arguments =>
            exact ⟨_, Setting.areNamed_script first, Edit.skippedFormats_applyAll _ options⟩
        | _ => exact ⟨[], rfl, (List.append_nil _).symm⟩
      obtain ⟨formats, named, added⟩ := own
      refine ⟨formats ++ later, ?_, ?_⟩
      · rw [List.flatMap_cons]
        exact named.append named'
      · rw [Outcome.options_andThen first, added', added, List.append_assoc]

namespace Resolver

variable {resolver : Resolver} {now : Int} {headers : Headers}

/-- The tokens by which the directives of a path name formats to be passed on as they are, those of
the default preset before them and those of other presets in their place. -/
def skipTokens (resolver : Resolver) (path : String) : List String :=
  (resolver.presets.steps (resolver.agenda path) []).flatMap Step.skipTokens

theorem Built.skippedFormats_initialOptions (built : resolver.Built) (headers : Headers) :
    (resolver.initialOptions headers).skippedFormats = resolver.config.skippedFormats := by
  obtain ⟨preferWebp, enforceWebp, preferAvif, enforceAvif, width, dpr, same⟩ :=
    built.exists_initialOptions headers
  rw [same]
  rfl

theorem skippedFormats_finish (source : Source) (options : Options) :
    (finish source options).options.skippedFormats = options.skippedFormats := by
  obtain ⟨format?, same⟩ := exists_options_finish source options
  rw [same]

/-- A run leaves the formats to be passed on and the presets used at the beginning of their lists,
whether it is rejected or not. So a request that goes through, with a signature or without, has the
formats of the configuration first, and behind them those that the tokens of its directives name,
one for each token and in the order in which they are run. -/
theorem skippedFormats_of_resolve (built : resolver.Built) (now : Int) (headers : Headers) :
    (∀ (presets : Presets) (agenda : List Directive) (options : Options),
      options.skippedFormats <+: (presets.run now agenda options).options.skippedFormats ∧
      options.usedPresets <+: (presets.run now agenda options).options.usedPresets) ∧
    (∀ path resolved, (resolver.resolve now headers path).result = .ok resolved →
      ∃ formats, ImageFormat.AreNamed (resolver.skipTokens path) formats ∧
        resolved.options.skippedFormats = resolver.config.skippedFormats ++ formats) ∧
    (∀ path resolved, (resolver.resolveSigned now headers path).result = .ok resolved →
      ∃ signature unsigned, splitSignature? path = some (signature, unsigned) ∧
        ∃ formats, ImageFormat.AreNamed (resolver.skipTokens unsigned) formats ∧
          resolved.options.skippedFormats = resolver.config.skippedFormats ++ formats) := by
  have whole : ∀ path resolved, (resolver.resolve now headers path).result = .ok resolved →
      ∃ formats, ImageFormat.AreNamed (resolver.skipTokens path) formats ∧
        resolved.options.skippedFormats = resolver.config.skippedFormats ++ formats := by
    intro path resolved ok
    obtain ⟨source, -, accepted, rfl⟩ := exists_finish_of_resolve ok
    rw [Presets.run_eq_applyAll_steps, built.usedPresets_initialOptions] at accepted ⊢
    rw [skippedFormats_finish, ← built.skippedFormats_initialOptions headers]
    exact Step.exists_areNamed accepted
  refine ⟨fun presets agenda options => ?_, whole, fun path resolved ok => ?_⟩
  · have grown := presets.extends_run now agenda options
    exact ⟨grown.skippedFormats, grown.usedPresets⟩
  · obtain ⟨signature, unsigned, split, ok⟩ := resolve_of_resolveSigned ok
    exact ⟨signature, unsigned, split, whole unsigned resolved ok⟩

/-- A configuration that passes SVGs on, with a preset that adds two formats. -/
def passingOn : Config :=
  { processing := { skippedFormats := [.svg], presets := ["still=skp:gif:jpg"] } }

/-- What is set up from the configuration. -/
def passingOnResolver : Resolver :=
  { plain with
    config := passingOn.processing
    baseline := passingOn.processing.baseline
    presets := Presets.empty.insert "still" [{ name := "skp", arguments := ["gif", "jpg"] }] }

theorem built_passingOnResolver : passingOnResolver.Built := by
  have made : ofConfig (fun _ => .error .notFound) 0 passingOn = .ok passingOnResolver :=
    ofConfig_eq_ok.2 ⟨passingOnResolver.presets, plain.verifier, rfl,
      Presets.check_of_allAccepted (by decide), by decide, rfl, rfl⟩
  exact .ofConfig made

/-- The preset is asked for twice and adds its formats once, between those of the directives around
it. -/
theorem skippedFormats_passingOn :
    passingOnResolver.Built ∧
      ∃ resolved,
        (passingOnResolver.resolve 0 [] "/skp:gif/pr:still/pr:still/skp:svg/plain/a").result =
          .ok resolved ∧
        resolved.options.skippedFormats = [.svg, .gif, .gif, .jpeg, .svg] ∧
        ImageFormat.AreNamed
          (passingOnResolver.skipTokens "/skp:gif/pr:still/pr:still/skp:svg/plain/a")
          [.gif, .gif, .jpeg, .svg] := by
  have decoded : passingOnResolver.decodeSource
      (passingOnResolver.sourceSegments "/skp:gif/pr:still/pr:still/skp:svg/plain/a") =
        .ok { url := "a", extension? := none } := by decide +kernel
  have evaluated : ∃ resolved,
      (passingOnResolver.resolve 0 [] "/skp:gif/pr:still/pr:still/skp:svg/plain/a").result =
          .ok resolved ∧
        resolved.options.skippedFormats = [.svg, .gif, .gif, .jpeg, .svg] :=
    exists_resolve_of_nested Options.skippedFormats (by decide) decoded
      (show _ < 2 by decide) (by decide +kernel)
  obtain ⟨resolved, ok, left⟩ := evaluated
  obtain ⟨formats, named, added⟩ :=
    (skippedFormats_of_resolve built_passingOnResolver 0 []).2.1 _ resolved ok
  have same : formats = [.gif, .gif, .jpeg, .svg] :=
    List.append_cancel_left (added.symm.trans left)
  exact ⟨built_passingOnResolver, resolved, ok, left, same ▸ named⟩

end Resolver

end ImageRequest

import ImageRequest.Proofs.Resolver.Related

/-!
# What request headers have an influence on

Two requests for the same path that differ in their headers start from options that differ in the
fields that hints write, and in no others. No directive looks at any of these fields: whether it is
rejected, and what it warns about, does not depend on the options at all, and what it leaves in the
other fields depends on the other fields alone. So the difference stays where it was, along the run
of the whole path: `resolve_sameButHints`.
-/

namespace ImageRequest

namespace Options

/-- The options with the fields that hints write set to the values they have at the start. Options
agree in all other fields if they are equal without hints. -/
def withoutHints (options : Options) : Options :=
  { options with
    width := 0
    dpr := 1.0
    preferWebp := false
    enforceWebp := false
    preferAvif := false
    enforceAvif := false }

theorem withoutHints_withHints (config : ProcessingConfig) (headers : Headers)
    (options : Options) : (options.withHints config headers).withoutHints = options.withoutHints := by
  obtain ⟨preferWebp, enforceWebp, preferAvif, enforceAvif, width, dpr, same⟩ :=
    options.exists_withHints config headers
  rw [same]
  rfl

variable {first second : Options}

theorem usedPresets_eq_of_withoutHints (same : first.withoutHints = second.withoutHints) :
    first.usedPresets = second.usedPresets := by
  have used := congrArg Options.usedPresets same
  exact used

theorem withoutHints_use (same : first.withoutHints = second.withoutHints) (preset : String) :
    (first.use preset).withoutHints = (second.use preset).withoutHints := by
  have used := congrArg (Options.use · preset) same
  exact used

end Options

namespace Edit

/-- What an edit leaves in the other fields depends on the other fields alone. -/
theorem withoutHints_apply (edit : Edit) (options : Options) :
    (edit.apply options).withoutHints = (edit.apply options.withoutHints).withoutHints := by
  cases edit <;> rfl

end Edit

/-- Agreement in the other fields is kept by all steps of a run. -/
theorem Options.isKept_withoutHints :
    IsKept (fun _ => True) fun first second => first.withoutHints = second.withoutHints where
  apply := by
    intro edit first second same
    rw [Edit.withoutHints_apply, same, ← Edit.withoutHints_apply]
  use := fun _ same => withoutHints_use same _
  mem_used := by
    intro preset first second _ same
    rw [usedPresets_eq_of_withoutHints same]

variable {options other : Options}

/-- Two outcomes that differ at most in the fields that hints write. -/
abbrev Outcome.SameButHints : Outcome → Outcome → Prop :=
  Agree fun first second => first.withoutHints = second.withoutHints

/-- Which steps a run consists of depends on the presets used before, which hints leave alone. -/
theorem Presets.run_sameButHints (presets : Presets) (now : Int) (agenda : List Directive)
    (same : options.withoutHints = other.withoutHints) :
    (presets.run now agenda options).SameButHints (presets.run now agenda other) :=
  run_agree Options.isKept_withoutHints (askOnly_of_forall fun _ => trivial)
    (fun _ _ => Directive.asksOnly_of_forall fun _ => trivial) same

/-- Two answers that differ at most in the fields that hints write: either both requests fail, for
the same reason, or both go through with the same address. -/
inductive Resolution.SameButHints : Resolution → Resolution → Prop
  | failed (warnings : List Warning) (error : RequestError) :
    SameButHints { warnings, result := .error error } { warnings, result := .error error }
  | resolved (warnings : List Warning) (url : String) {options other : Options} :
    options.withoutHints = other.withoutHints →
      SameButHints { warnings, result := .ok { options, url } }
        { warnings, result := .ok { options := other, url } }

theorem Resolution.Agree.sameButHints {first second : Resolution}
    (agree : first.Agree (fun options other => options.withoutHints = other.withoutHints) second) :
    first.SameButHints second := by
  cases agree with
  | failed warnings error => exact .failed warnings error
  | resolved warnings url same => exact .resolved warnings url same

namespace Resolver

theorem complete_sameButHints (resolver : Resolver) {first second : Outcome}
    (same : first.SameButHints second) (segments : List String) :
    (resolver.complete first segments).SameButHints (resolver.complete second segments) :=
  (resolver.complete_agree Options.isKept_withoutHints same segments).sameButHints

/-- Of the answer to a request, its headers have an influence only on the fields that hints write,
whatever the resolver, the path and the time are, and with a signature or without. -/
theorem resolve_sameButHints (resolver : Resolver) (now : Int) (first second : Headers)
    (path : String) :
    (resolver.resolve now first path).SameButHints (resolver.resolve now second path) ∧
    (resolver.resolveSigned now first path).SameButHints
      (resolver.resolveSigned now second path) := by
  have unsigned : ∀ path,
      (resolver.resolve now first path).SameButHints (resolver.resolve now second path) := by
    intro path
    by_cases empty : path = "" ∨ path = "/"
    · rw [resolve, resolve, if_pos empty, if_pos empty]
      exact .failed _ _
    · have initially : (resolver.initialOptions first).withoutHints =
          (resolver.initialOptions second).withoutHints := by
        rw [initialOptions, initialOptions, Options.withoutHints_withHints,
          Options.withoutHints_withHints]
      rw [resolve_eq_complete empty, resolve_eq_complete empty]
      have run := resolver.presets.run_sameButHints now (resolver.agenda path) initially
      exact resolver.complete_sameButHints run _
  refine ⟨unsigned path, ?_⟩
  rw [resolveSigned, resolveSigned]
  cases splitSignature? path with
  | none => exact .failed _ _
  | some parts =>
      obtain ⟨signature, signed⟩ := parts
      cases checked : resolver.verifier.verify signature signed with
      | error error =>
          simp only [checked]
          exact .failed _ _
      | ok _ =>
          simp only [checked]
          exact unsigned signed

end Resolver

end ImageRequest

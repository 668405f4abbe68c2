import ImageRequest.Proofs.Presets.Flat
import ImageRequest.Proofs.Resolver.Request

/-!
# Requests as time goes on

The only setting that looks at the clock is the expiry, and all that a later time can change is that
a request is expired. Along a run this happens at the first expiry that has passed by then, wherever
it stands, inside of presets or out of them; the steps before it are those of the earlier run, as
which steps a run consists of does not depend on the time. An earlier run that ended before that
expiry ends in the same way at the later time. So an answer stays the same or becomes a refusal of
an expired request, and nothing else (`ages_resolve`).
-/

namespace ImageRequest

variable {now later : Int}

/-- An expiry that has not passed by the later time had not passed before. -/
theorem Script.expires_later (passed : now ≤ later) (arguments : List String) :
    expires later arguments = expires now arguments ∨
      expires later arguments = reject .expired := by
  rw [expires, expires]
  match arguments with
  | [] => exact .inl rfl
  | _ :: _ :: _ => exact .inl rfl
  | [token] =>
      rw [single, single]
      cases Token.integer "expires argument" token with
      | error rejection => exact .inl rfl
      | ok time =>
          by_cases reached : 0 < time ∧ time ≤ later
          · exact .inr (if_pos reached)
          · have before : ¬ (0 < time ∧ time ≤ now) := by omega
            refine .inl ?_
            simp only [if_neg reached, if_neg before]

/-- What a setting does at a later time is what it did before, unless it is an expiry that has
passed. -/
theorem Setting.script_later (passed : now ≤ later) (setting : Setting)
    (arguments : List String) :
    setting.script later arguments = setting.script now arguments ∨
      setting.script later arguments = .reject .expired := by
  cases setting with
  | expires => exact Script.expires_later passed arguments
  | _ => exact .inl rfl

namespace Outcome

/-- What an outcome can become at a later time: it stays the same, or ends with an expiry. -/
def Ages (earlier later : Outcome) : Prop :=
  later = earlier ∨ later.rejection? = some .expired

theorem Ages.refl (outcome : Outcome) : outcome.Ages outcome :=
  .inl rfl

/-- One outcome after another ages as both of them do. -/
theorem Ages.andThen {earlier later : Outcome} {next next' : Options → Outcome}
    (first : earlier.Ages later) (second : ∀ options, (next options).Ages (next' options)) :
    (earlier.andThen next).Ages (later.andThen next') := by
  obtain same | expired := first
  · subst same
    cases rejected : later.rejection? with
    | some rejection =>
        rw [andThen_of_some rejected, andThen_of_some rejected]
        exact .refl later
    | none =>
        rw [andThen_of_none rejected, andThen_of_none rejected]
        obtain same | expired := second later.options
        · rw [same]
          exact .refl _
        · exact .inr expired
  · -- what follows later is not reached
    rw [andThen_of_some expired]
    exact .inr expired

end Outcome

/-! ### Runs -/

theorem Step.ages_apply (passed : now ≤ later) (step : Step) (options : Options) :
    (step.apply now options).Ages (step.apply later options) := by
  cases step with
  | set setting arguments =>
      rw [apply, apply]
      obtain same | expired := setting.script_later passed arguments
      · rw [same]
        exact .refl _
      · rw [expired]
        exact .inr rfl
  | enter name => exact .refl _
  | passOver name => exact .refl _
  | halt rejection => exact .refl _

theorem Step.ages_applyAll (passed : now ≤ later) (steps : List Step) (options : Options) :
    (applyAll now steps options).Ages (applyAll later steps options) := by
  induction steps generalizing options with
  | nil => exact .refl _
  | cons step steps ih => exact (step.ages_apply passed options).andThen ih

theorem Presets.ages_run (presets : Presets) (passed : now ≤ later) (agenda : List Directive)
    (options : Options) :
    (presets.run now agenda options).Ages (presets.run later agenda options) := by
  rw [run_eq_applyAll_steps, run_eq_applyAll_steps]
  exact Step.ages_applyAll passed _ options

/-! ### Answers -/

namespace Resolution

/-- The request was refused as expired. -/
def IsExpired (resolution : Resolution) : Prop :=
  resolution.result = .error (.rejected .expired)

/-- What the answer to a request can become at a later time. -/
structure Ages (earlier later : Resolution) : Prop where
  same_or_expired : later = earlier ∨ later.IsExpired
  /-- What is expired stays expired. -/
  expired : earlier.IsExpired → later.IsExpired
  /-- What goes through later had the same answer before. -/
  resolved : ∀ request, later.result = .ok request → earlier = later

theorem ages_of_same_or_expired {earlier later : Resolution}
    (aged : later = earlier ∨ later.IsExpired) : earlier.Ages later where
  same_or_expired := aged
  expired := by
    intro expired
    obtain same | expired' := aged
    · rwa [same]
    · exact expired'
  resolved := by
    intro request ok
    obtain same | expired := aged
    · exact same.symm
    · cases ok.symm.trans expired

theorem Ages.refl (resolution : Resolution) : resolution.Ages resolution :=
  ages_of_same_or_expired (.inl rfl)

end Resolution

namespace Resolver

theorem ages_complete (resolver : Resolver) {earlier later : Outcome} (aged : earlier.Ages later)
    (segments : List String) :
    (resolver.complete earlier segments).Ages (resolver.complete later segments) := by
  obtain same | expired := aged
  · rw [same]
    exact .refl _
  · refine Resolution.ages_of_same_or_expired (.inr ?_)
    rw [Resolution.IsExpired, complete, expired]

/-- As time goes on, the answer to a request stays the same until the request expires, and then it
is expired for good, whatever the resolver, the headers and the path are, and with a signature or
without. -/
theorem ages_resolve (resolver : Resolver) (headers : Headers) (path : String) {now later : Int}
    (passed : now ≤ later) :
    (resolver.resolve now headers path).Ages (resolver.resolve later headers path) ∧
      (resolver.resolveSigned now headers path).Ages
        (resolver.resolveSigned later headers path) := by
  have unsigned : ∀ path,
      (resolver.resolve now headers path).Ages (resolver.resolve later headers path) := by
    intro path
    by_cases empty : path = "" ∨ path = "/"
    · rw [resolve, resolve, if_pos empty, if_pos empty]
      exact .refl _
    · rw [resolve_eq_complete empty, resolve_eq_complete empty]
      exact resolver.ages_complete (resolver.presets.ages_run passed _ _) _
  exact ⟨unsigned path, resolveSigned_rel (fun _ => .refl _) unsigned path⟩

/-- A request that is valid at first, expired at the time that it names, and ever after. -/
theorem ages_plain :
    (0 : Int) ≤ 500 ∧ (500 : Int) ≤ 501 ∧
      (∃ resolved, (plain.resolve 0 [] "/exp:500/plain/a").result = .ok resolved) ∧
      (plain.resolve 0 [] "/exp:500/plain/a").Ages (plain.resolve 500 [] "/exp:500/plain/a") ∧
      (plain.resolve 500 [] "/exp:500/plain/a").IsExpired ∧
      (plain.resolve 501 [] "/exp:500/plain/a").IsExpired := by
  have valid : ∃ resolved, (plain.resolve 0 [] "/exp:500/plain/a").result = .ok resolved ∧
      resolved.options.usedPresets = [] :=
    exists_resolve_plain Options.usedPresets (by decide) (by decide) (by decide +kernel)
  obtain ⟨resolved, ok, -⟩ := valid
  have expired : (plain.resolve 500 [] "/exp:500/plain/a").IsExpired := by
    have agenda : plain.agenda "/exp:500/plain/a" = [{ name := "exp", arguments := ["500"] }] := by
      decide
    have known : Keyword.ofName? "exp" = some (.setting .expires) := by decide
    have refused : (Setting.expires.script 500 ["500"]).rejection? = some .expired := by decide
    rw [Resolution.IsExpired, resolve_eq_complete (by decide), agenda, Presets.run_setting known,
      Presets.andThen_run_nil, complete, Script.run]
    simp only [refused]
  have first : (0 : Int) ≤ 500 := by decide
  have second : (500 : Int) ≤ 501 := by decide
  have aged := (ages_resolve plain [] "/exp:500/plain/a" first).1
  have agedAgain := (ages_resolve plain [] "/exp:500/plain/a" second).1
  exact ⟨first, second, ⟨resolved, ok⟩, aged, expired, agedAgain.expired expired⟩

end Resolver

end ImageRequest

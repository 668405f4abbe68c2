import ImageRequest.Proofs.Resolver.Request
import ImageRequest.Proofs.Setting.Valid

/-!
# Resolved options are valid

The options of every request that goes through are valid: `Resolver.valid_of_resolve`.
-/

namespace ImageRequest

/-- A run that is not rejected keeps valid options valid. -/
theorem Presets.valid_run {presets : Presets} {now : Int} {agenda : List Directive}
    {options : Options} (valid : options.Valid)
    (accepted : (presets.run now agenda options).rejection? = none) :
    (presets.run now agenda options).options.Valid :=
  Presets.run_preserves (fun _ _ _ valid accepted => Setting.valid_applyAll valid accepted)
    (fun name _ valid => valid.use name) valid accepted

namespace Resolver

theorem Built.valid_initialOptions {resolver : Resolver} (built : resolver.Built)
    (headers : Headers) : (resolver.initialOptions headers).Valid := by
  rw [initialOptions, built.baseline_eq]
  exact (Options.valid_start _ _ _ _).withHints resolver.config headers

/-- Whatever the configuration, the path, the headers and the time are, and with a signature or
without: a request that goes through has valid options. -/
theorem valid_of_resolve {resolver : Resolver} (built : resolver.Built) {now : Int}
    {headers : Headers} {path : String} {resolved : ResolvedRequest}
    (ok : (resolver.resolve now headers path).result = .ok resolved ∨
      (resolver.resolveSigned now headers path).result = .ok resolved) :
    resolved.options.Valid := by
  have unsigned : ∃ path, (resolver.resolve now headers path).result = .ok resolved := by
    rcases ok with ok | ok
    · exact ⟨path, ok⟩
    · obtain ⟨signature, unsigned, -, ok⟩ := resolve_of_resolveSigned ok
      exact ⟨unsigned, ok⟩
  obtain ⟨path, ok⟩ := unsigned
  obtain ⟨-, source, -, accepted, rfl⟩ := resolve_eq_ok.1 ok
  exact Presets.valid_run (built.valid_initialOptions headers) accepted

/-- A request with a padding of two sides and a watermark of half opacity goes through. -/
theorem valid_plain :
    plain.Built ∧
      ∃ resolved,
        (plain.resolve 0 [] "/pd:0:5/wm:0.5:no:3:-4/plain/a").result = .ok resolved ∧
        resolved.options.padding.enabled = true ∧ resolved.options.Valid := by
  have evaluated : ∃ resolved,
      (plain.resolve 0 [] "/pd:0:5/wm:0.5:no:3:-4/plain/a").result = .ok resolved ∧
        resolved.options.padding.enabled = true :=
    exists_resolve_plain (fun options => options.padding.enabled) (by decide) (by decide +kernel)
      (by decide +kernel)
  obtain ⟨resolved, ok, enabled⟩ := evaluated
  exact ⟨built_plain, resolved, ok, enabled, valid_of_resolve built_plain (.inl ok)⟩

end Resolver

end ImageRequest

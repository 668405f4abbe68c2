import ImageRequest.Proofs.Config.Validation
import ImageRequest.Proofs.Resolver.Valid

/-!
# Qualities of resolved requests

The quality to encode with is that of the options, or else the one that is configured for their
format, or else the default one (`Options.EncodesAt`). Requests can ask for a quality of at most one
hundred, where zero stands for none, and the qualities of a valid configuration lie between one and
one hundred. So does the quality to encode with, for every request that goes through
(`isUsable_effectiveQuality`).
-/

namespace ImageRequest

/-- A quality is the one that some options are encoded with under a configuration. -/
inductive Options.EncodesAt (options : Options) (config : ProcessingConfig) : Nat → Prop
  | given : options.quality ≠ 0 → EncodesAt options config options.quality
  | ofFormat {format : ImageFormat} {quality : Nat} : options.quality = 0 →
    options.format? = some format → config.formatQuality.lookup format = some quality →
      EncodesAt options config quality
  | byDefault : options.quality = 0 →
    (∀ format, options.format? = some format → config.formatQuality.lookup format = none) →
      EncodesAt options config config.quality

variable {config : ProcessingConfig}

/-- Where every quality can be used, none is passed over. -/
theorem ProcessingConfig.UsableQualities.qualityFor?_eq (usable : config.UsableQualities)
    (format : ImageFormat) : config.qualityFor? format = config.formatQuality.lookup format := by
  rw [qualityFor?]
  cases given : config.formatQuality.lookup format with
  | none => rfl
  | some quality =>
      have positive : 0 < quality := (usable.formatQuality format quality given).1
      exact if_pos (decide_eq_true positive)

namespace Options

variable {options : Options}

theorem encodesAt_effectiveQuality (usable : config.UsableQualities) (options : Options) :
    options.EncodesAt config (options.effectiveQuality config) := by
  rw [effectiveQuality]
  by_cases given : 0 < options.quality
  · rw [if_pos given]
    exact .given (Nat.ne_of_gt given)
  · rw [if_neg given]
    have none : options.quality = 0 := Nat.eq_zero_of_not_pos given
    cases format : options.format? with
    | none => exact .byDefault none fun other same => by cases format.symm.trans same
    | some format' =>
        rw [Option.bind_some, usable.qualityFor?_eq]
        cases configured : config.formatQuality.lookup format' with
        | some quality => exact .ofFormat none format configured
        | none =>
            refine .byDefault none fun other same => ?_
            cases format.symm.trans same
            exact configured

theorem EncodesAt.isUsable (usable : config.UsableQualities) (atMost : options.quality ≤ 100)
    {quality : Nat} (encodes : options.EncodesAt config quality) : 1 ≤ quality ∧ quality ≤ 100 := by
  cases encodes with
  | given some => exact ⟨Nat.one_le_iff_ne_zero.2 some, atMost⟩
  | ofFormat _ _ configured => exact usable.formatQuality _ _ configured
  | byDefault _ _ => exact usable.quality

end Options

namespace Resolver

variable {resolver : Resolver} {now : Int} {headers : Headers} {path : String}
  {resolved : ResolvedRequest}

/-- An extension that is accepted is the format in the end. -/
theorem format?_finish {source : Source} {options : Options}
    (accepted : (finish source options).rejection? = none) {extension : String}
    (given : source.extension? = some extension) :
    ∃ format, ImageFormat.ofName? extension = some format ∧
      (finish source options).options.format? = some format := by
  rw [finish, given] at accepted ⊢
  simp only [(Handler.Runs.format [extension]).run_eq, Script.format, Script.single,
    Token.format] at accepted ⊢
  cases named : ImageFormat.ofName? extension with
  | none =>
      rw [named] at accepted
      cases accepted
  | some format => exact ⟨format, rfl, rfl⟩

/-- The extension of the source, if there is one, has the last word on the format. -/
theorem format?_of_resolve (ok : (resolver.resolve now headers path).result = .ok resolved)
    {source : Source} (decoded : resolver.decodeSource (resolver.sourceSegments path) = .ok source)
    {extension : String} (given : source.extension? = some extension) :
    ∃ format, ImageFormat.ofName? extension = some format ∧
      resolved.options.format? = some format := by
  obtain ⟨-, source', decoded', accepted, rfl⟩ := resolve_eq_ok.1 ok
  cases Except.ok.inj (decoded'.symm.trans decoded)
  rw [Presets.run_append] at accepted ⊢
  obtain ⟨first, last⟩ := Outcome.rejection?_andThen_eq_none.1 accepted
  rw [Outcome.options_andThen first]
  rw [← finish_eq_run] at last ⊢
  exact format?_finish last given

theorem quality_of_resolve (built : resolver.Built)
    (ok : (resolver.resolve now headers path).result = .ok resolved) :
    resolved.options.quality ≤ 100 := by
  obtain ⟨-, source, -, accepted, rfl⟩ := resolve_eq_ok.1 ok
  exact (Presets.valid_run (built.valid_initialOptions headers) accepted).quality

/-- A request that goes through, with a signature or without, is encoded with a quality between one
and one hundred, if the configuration of its resolver was valid, with whatever files and at whatever
time, and in whatever way sources are read. That is the quality of its options, or that of their
format, which the extension of its source decides on if there is one, or the default. -/
theorem isUsable_effectiveQuality {files files' : Files} {checked start : Int} {config : Config}
    {initial : Resolver} {decoder : SourceDecoder}
    (valid : config.validate files checked = .ok ())
    (made : ofConfig files' start config = .ok initial)
    (reading : resolver = { initial with decodeSource := decoder })
    (ok : (resolver.resolve now headers path).result = .ok resolved ∨
      ∃ signed signature, splitSignature? signed = some (signature, path) ∧
        (resolver.resolveSigned now headers signed).result = .ok resolved) :
    (1 ≤ resolved.options.effectiveQuality config.processing ∧
      resolved.options.effectiveQuality config.processing ≤ 100) ∧
    resolved.options.EncodesAt config.processing
      (resolved.options.effectiveQuality config.processing) ∧
    ∀ source extension, resolver.decodeSource (resolver.sourceSegments path) = .ok source →
      source.extension? = some extension →
        ∃ format, ImageFormat.ofName? extension = some format ∧
          resolved.options.format? = some format := by
  have unsigned : (resolver.resolve now headers path).result = .ok resolved := by
    obtain ok | ⟨signed, signature, split, ok⟩ := ok
    · exact ok
    · obtain ⟨signature', path', split', ok⟩ := resolve_of_resolveSigned ok
      cases split.symm.trans split'
      exact ok
  have built : resolver.Built := by
    rw [reading]
    exact .withDecoder decoder (.ofConfig made)
  obtain ⟨qualities, -⟩ := Config.validate_eq_ok_iff_checks.1 valid
  have usable := ProcessingConfig.checkQualities_eq_ok_iff.1 qualities
  have encodes := Options.encodesAt_effectiveQuality usable resolved.options
  have atMost := quality_of_resolve built unsigned
  refine ⟨encodes.isUsable usable atMost, encodes, ?_⟩
  intro source extension decoded given
  exact format?_of_resolve unsigned decoded given

/-- A configuration with a quality for one format. -/
def webpTuned : Config :=
  { processing := { quality := 90, formatQuality := [(.webp, 70)] } }

/-- What is set up from it. -/
def webpTunedResolver : Resolver :=
  { plain with config := webpTuned.processing }

/-- The extension asks for the format with a quality of its own. -/
theorem effectiveQuality_webpTuned :
    webpTuned.validate (fun _ => .error .notFound) 0 = .ok () ∧
      ofConfig (fun _ => .error .notFound) 0 webpTuned = .ok webpTunedResolver ∧
      ∃ resolved, (webpTunedResolver.resolve 0 [] "/plain/a@webp").result = .ok resolved ∧
        resolved.options.effectiveQuality webpTuned.processing = 70 ∧
        resolved.options.EncodesAt webpTuned.processing 70 := by
  have valid : webpTuned.validate (fun _ => .error .notFound) 0 = .ok () := by decide
  have made : ofConfig (fun _ => .error .notFound) 0 webpTuned = .ok webpTunedResolver := rfl
  have nothing : webpTunedResolver.agenda "/plain/a@webp" = [] := by decide
  have read : Source.decode "" ["plain", "a@webp"] =
      .ok { url := "a", extension? := some "webp" } := by decide +kernel
  have ok : (webpTunedResolver.resolve 0 [] "/plain/a@webp").result = .ok _ :=
    resolve_of_agenda_eq_nil (by decide) nothing (Source.decoder_eq_ok_iff.2 read) (by decide)
  have encodes := (isUsable_effectiveQuality valid made rfl (.inl ok)).2.1
  exact ⟨valid, made, _, ok, by decide, encodes⟩

end Resolver

end ImageRequest

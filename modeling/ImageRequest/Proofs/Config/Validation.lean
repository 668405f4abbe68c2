import ImageRequest.Config.Validation
import ImageRequest.Proofs.Resolver.Request
import ImageRequest.Proofs.Verifier

/-!
# Validated configurations

A configuration is looked at twice: as a whole when it is validated, and again when a resolver is
set up from it. The two go through their checks in different orders, and where validation goes
through the keys and then through the salts, setting up goes through the pairs of both. Each check
passes on a condition that does not depend on the order, so that a configuration is valid exactly if
a resolver can be set up from it and its qualities and its separator can be used as well
(`Config.validate_eq_ok_iff`).
-/

namespace ImageRequest

theorem isUsableQuality_iff {quality : Nat} :
    isUsableQuality quality = true ↔ 1 ≤ quality ∧ quality ≤ 100 := by
  rw [isUsableQuality, Bool.and_eq_true, decide_eq_true_iff, decide_eq_true_iff]

namespace ProcessingConfig

variable {config : ProcessingConfig}

/-! ### Qualities and separators -/

/-- Every quality that a configuration gives lies between one and one hundred. -/
structure UsableQualities (config : ProcessingConfig) : Prop where
  quality : 1 ≤ config.quality ∧ config.quality ≤ 100
  formatQuality : ∀ format quality, config.formatQuality.lookup format = some quality →
    1 ≤ quality ∧ quality ≤ 100

/-- No format is found to have an unusable quality if the quality of each one can be used. -/
theorem unusableFormatQuality?_eq_none_iff :
    config.unusableFormatQuality? = none ↔
      ∀ format quality, config.formatQuality.lookup format = some quality →
        1 ≤ quality ∧ quality ≤ 100 := by
  rw [unusableFormatQuality?, List.findSome?_eq_none_iff]
  constructor
  · intro none format quality given
    have usable := none format format.mem_all
    rw [Option.map_eq_none_iff, given, Option.filter_eq_none_iff] at usable
    have quality := usable quality rfl
    rwa [Bool.not_eq_true', Bool.not_eq_false, isUsableQuality_iff] at quality
  · intro usable format _
    rw [Option.map_eq_none_iff, Option.filter_eq_none_iff]
    intro quality given
    rw [Bool.not_eq_true', Bool.not_eq_false, isUsableQuality_iff]
    exact usable format quality given

theorem checkQualities_eq_ok_iff : config.checkQualities = .ok () ↔ config.UsableQualities := by
  have parts : config.UsableQualities ↔
      isUsableQuality config.quality = true ∧ config.unusableFormatQuality? = none := by
    rw [isUsableQuality_iff, unusableFormatQuality?_eq_none_iff]
    exact ⟨fun ⟨quality, formatQuality⟩ => ⟨quality, formatQuality⟩,
      fun ⟨quality, formatQuality⟩ => ⟨quality, formatQuality⟩⟩
  rw [parts, checkQualities]
  cases isUsableQuality config.quality with
  | false => simp
  | true =>
      cases config.unusableFormatQuality? with
      | none => simp
      | some found => simp

theorem checkSeparator_eq_ok_iff :
    config.checkSeparator = .ok () ↔
      config.separator ≠ "" ∧ '/' ∉ config.separator.toList := by
  rw [checkSeparator]
  split
  · rename_i empty
    simp [empty]
  · rename_i given
    split
    · rename_i slash
      simp [slash]
    · rename_i noSlash
      simp [given, noSlash]

/-! ### Presets -/

/-- The presets can be loaded, there are some where requests need them, and all of them can be run.
-/
theorem checkPresets_eq_ok_iff {files : Files} {now : Int} :
    config.checkPresets files now = .ok () ↔
      ∃ presets, config.loadPresets files = .ok presets ∧
        (presets.check now config.baseline).2 = none ∧
        (config.onlyPresets && presets.isEmpty) = false := by
  rw [checkPresets]
  cases config.loadPresets files with
  | error error => simp
  | ok presets =>
      simp only [Except.ok.injEq, exists_eq_left']
      cases config.onlyPresets && presets.isEmpty with
      | true => simp
      | false =>
          cases (presets.check now config.baseline).2 with
          | none => simp
          | some error => simp

end ProcessingConfig

/-! ### Signing -/

namespace SecurityConfig

variable {config : SecurityConfig}

/-- The text is a hexadecimal byte string. -/
def IsHex (text : String) : Prop :=
  ∃ bytes, Codec.Hex.decode text = .ok bytes

/-- What signing needs of a configuration: signatures of a possible length, and as many salts as
keys, all of them hexadecimal. -/
structure Usable (config : SecurityConfig) : Prop where
  signatureSize : 0 < config.signatureSize ∧ config.signatureSize ≤ 32
  count : config.keys.length = config.salts.length
  keys : ∀ key ∈ config.keys, IsHex key
  salts : ∀ salt ∈ config.salts, IsHex salt

theorem isInvalidHex_eq_false_iff {text : String} : isInvalidHex text = false ↔ IsHex text := by
  rw [isInvalidHex, IsHex]
  cases Codec.Hex.decode text with
  | error error => simp [Except.isOk, Except.toBool]
  | ok bytes => simp [Except.isOk, Except.toBool]

/-- A search for a text that is not hexadecimal finds none exactly if all are. -/
theorem findIdx?_isInvalidHex_eq_none_iff {texts : List String} :
    texts.findIdx? isInvalidHex = none ↔ ∀ text ∈ texts, IsHex text := by
  rw [List.findIdx?_eq_none_iff]
  simp only [isInvalidHex_eq_false_iff]

theorem check_eq_ok_iff : config.check = .ok () ↔ config.Usable := by
  rw [check]
  constructor
  · intro passed
    split at passed
    · cases passed
    · rename_i count
      split at passed
      · cases passed
      · cases passed
      · rename_i keys salts
        split at passed
        · cases passed
        · rename_i size
          exact
            { signatureSize := by omega
              count := Decidable.not_not.1 count
              keys := findIdx?_isInvalidHex_eq_none_iff.1 keys
              salts := findIdx?_isInvalidHex_eq_none_iff.1 salts }
  · intro usable
    have size := usable.signatureSize
    have inRange : ¬ (config.signatureSize = 0 ∨ 32 < config.signatureSize) := by omega
    rw [if_neg (not_not_intro usable.count), findIdx?_isInvalidHex_eq_none_iff.2 usable.keys,
      findIdx?_isInvalidHex_eq_none_iff.2 usable.salts]
    exact if_neg inRange

end SecurityConfig

namespace SigningPair

theorem exists_ofHex_iff {index : Nat} {key salt : String} :
    (∃ pair, ofHex index key salt = .ok pair) ↔
      SecurityConfig.IsHex key ∧ SecurityConfig.IsHex salt := by
  simp only [ofHex_eq_ok]
  constructor
  · rintro ⟨pair, key, salt⟩
    exact ⟨⟨pair.key, key⟩, ⟨pair.salt, salt⟩⟩
  · rintro ⟨⟨key, readKey⟩, ⟨salt, readSalt⟩⟩
    exact ⟨{ key, salt }, readKey, readSalt⟩

/-- The pairs of as many keys as salts are read exactly if all of the texts are hexadecimal. -/
theorem exists_ofHexList_zip_iff {index : Nat} {keys salts : List String}
    (count : keys.length = salts.length) :
    (∃ pairs, ofHexList index (keys.zip salts) = .ok pairs) ↔
      (∀ key ∈ keys, SecurityConfig.IsHex key) ∧ ∀ salt ∈ salts, SecurityConfig.IsHex salt := by
  induction keys generalizing salts index with
  | nil =>
      cases List.eq_nil_of_length_eq_zero count.symm
      exact ⟨fun _ => ⟨nofun, nofun⟩, fun _ => ⟨[], rfl⟩⟩
  | cons key keys ih =>
      cases salts with
      | nil => cases count
      | cons salt salts =>
          rw [List.zip_cons_cons, List.forall_mem_cons, List.forall_mem_cons]
          constructor
          · rintro ⟨pairs, read⟩
            obtain ⟨first, rest, readFirst, readRest, -⟩ := ofHexList_cons_eq_ok read
            obtain ⟨hexKey, hexSalt⟩ := exists_ofHex_iff.1 ⟨first, readFirst⟩
            obtain ⟨hexKeys, hexSalts⟩ := (ih (Nat.succ.inj count)).1 ⟨rest, readRest⟩
            exact ⟨⟨hexKey, hexKeys⟩, ⟨hexSalt, hexSalts⟩⟩
          · rintro ⟨⟨hexKey, hexKeys⟩, ⟨hexSalt, hexSalts⟩⟩
            obtain ⟨first, readFirst⟩ := exists_ofHex_iff.2 ⟨hexKey, hexSalt⟩
            have later : ∃ rest, ofHexList (index + 1) (keys.zip salts) = .ok rest :=
              (ih (Nat.succ.inj count)).2 ⟨hexKeys, hexSalts⟩
            obtain ⟨rest, readRest⟩ := later
            refine ⟨first :: rest, ?_⟩
            rw [ofHexList, readFirst]
            simp only [bind, Except.bind, readRest, pure, Except.pure]

end SigningPair

/-- Signing can be set up exactly if its configuration passes the check of the same. -/
theorem Verifier.exists_ofConfig_iff {config : SecurityConfig} :
    (∃ verifier, ofConfig config = .ok verifier) ↔ config.Usable := by
  constructor
  · rintro ⟨verifier, made⟩
    obtain ⟨positive, atMost, count, read, -⟩ := ofConfig_eq_ok made
    obtain ⟨keys, salts⟩ := (SigningPair.exists_ofHexList_zip_iff count).1 ⟨_, read⟩
    exact { signatureSize := ⟨positive, atMost⟩, count, keys, salts }
  · rintro ⟨size, count, keys, salts⟩
    obtain ⟨pairs, read⟩ := (SigningPair.exists_ofHexList_zip_iff count).2 ⟨keys, salts⟩
    have inRange : ¬ (config.signatureSize = 0 ∨ 32 < config.signatureSize) := by omega
    refine ⟨{ pairs, signatureSize := config.signatureSize }, ?_⟩
    rw [ofConfig, if_neg inRange, if_neg (not_not_intro count), read]
    rfl

/-! ### The whole configuration -/

/-- A resolver can be set up exactly if the presets and the signing of the configuration pass their
checks. -/
theorem Resolver.exists_ofConfig_iff {files : Files} {now : Int} {config : Config} :
    (∃ resolver, ofConfig files now config = .ok resolver) ↔
      config.processing.checkPresets files now = .ok () ∧ config.security.check = .ok () := by
  rw [ProcessingConfig.checkPresets_eq_ok_iff, SecurityConfig.check_eq_ok_iff,
    ← Verifier.exists_ofConfig_iff]
  simp only [ofConfig_eq_ok]
  constructor
  · rintro ⟨resolver, presets, verifier, loaded, passed, some, made, -⟩
    exact ⟨⟨presets, loaded, passed, some⟩, ⟨verifier, made⟩⟩
  · rintro ⟨⟨presets, loaded, passed, some⟩, ⟨verifier, made⟩⟩
    exact ⟨_, presets, verifier, loaded, passed, some, made, rfl⟩

namespace Config

variable {files : Files} {now : Int} {config : Config}

theorem bind_eq_ok_iff {α : Type} {check : Except ConfigFault Unit}
    {next : Except ConfigFault α} {value : α} :
    (check >>= fun _ => next) = .ok value ↔ check = .ok () ∧ next = .ok value := by
  cases check with
  | error fault => simp [bind, Except.bind]
  | ok done => simp [bind, Except.bind]

theorem validate_eq_ok_iff_checks :
    config.validate files now = .ok () ↔
      config.processing.checkQualities = .ok () ∧ config.processing.checkSeparator = .ok () ∧
        config.processing.checkPresets files now = .ok () ∧ config.security.check = .ok () := by
  rw [validate, bind_eq_ok_iff, bind_eq_ok_iff, bind_eq_ok_iff]

/-- A configuration is valid exactly if a resolver can be set up from it, each of its qualities lies
between one and one hundred, and its separator is not empty and has no slash. So setting up a
resolver never fails on a valid configuration, with the same files and at the same time. -/
theorem validate_eq_ok_iff (files : Files) (now : Int) (config : Config) :
    config.validate files now = .ok () ↔
      (∃ resolver, Resolver.ofConfig files now config = .ok resolver) ∧
        config.processing.UsableQualities ∧
        config.processing.separator ≠ "" ∧ '/' ∉ config.processing.separator.toList := by
  rw [validate_eq_ok_iff_checks, ProcessingConfig.checkQualities_eq_ok_iff,
    ProcessingConfig.checkSeparator_eq_ok_iff, Resolver.exists_ofConfig_iff]
  constructor
  · rintro ⟨qualities, separator, presets, security⟩
    exact ⟨⟨presets, security⟩, qualities, separator⟩
  · rintro ⟨⟨presets, security⟩, qualities, separator⟩
    exact ⟨qualities, separator, presets, security⟩

/-- A quality of zero is no obstacle to setting up a resolver. -/
example :
    let config : Config := { processing := { quality := 0 } }
    (Resolver.ofConfig (fun _ => .error .notFound) 0 config).isOk = true ∧
      config.validate (fun _ => .error .notFound) 0 = .error (.quality 0) := by decide

end Config

end ImageRequest

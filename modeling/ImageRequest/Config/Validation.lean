import ImageRequest.Codec.Hex
import ImageRequest.Presets.Run
import ImageRequest.Verifier

/-!
# Validating the configuration

A configuration is checked as a whole before it is used. The checks are made in a fixed order, and
the first one that fails gives the error.
-/

namespace ImageRequest

/-- What is wrong with a configuration. -/
inductive ConfigFault where
  | quality (quality : Nat)
  | formatQuality (format : ImageFormat) (quality : Nat)
  | emptySeparator
  | slashInSeparator (separator : String)
  | presets (error : PresetError)
  | noPresets
  | countMismatch (keys salts : Nat)
  | invalidKey (index : Nat)
  | invalidSalt (index : Nat)
  | signatureSize (size : Nat)
deriving Repr, DecidableEq

/-- The text of the error. -/
def ConfigFault.message : ConfigFault → String
  | .quality value => "Quality must be between 1 and 100, got " ++ toString value
  | .formatQuality format value =>
    "Quality for format '" ++ format.name ++ "' must be between 1 and 100, got " ++ toString value
  | .emptySeparator => "Arguments separator cannot be empty"
  | .slashInSeparator separator => "Arguments separator '" ++ separator ++ "' cannot contain '/'"
  | .presets error => error.message
  | .noPresets => "only_presets is enabled but no presets are defined"
  | .countMismatch keys salts =>
    "Number of signing keys (" ++ toString keys ++ ") and salts (" ++ toString salts ++
      ") must match"
  | .invalidKey index => "Signing key at index " ++ toString index ++ " is not valid hex"
  | .invalidSalt index => "Signing salt at index " ++ toString index ++ " is not valid hex"
  | .signatureSize size => "Signature size must be between 1 and 32, got " ++ toString size

/-- Whether a quality can be used. -/
def isUsableQuality (quality : Nat) : Bool :=
  1 ≤ quality && quality ≤ 100

namespace ProcessingConfig

/-- The first format with a quality that cannot be used. -/
def unusableFormatQuality? (config : ProcessingConfig) : Option (ImageFormat × Nat) :=
  ImageFormat.all.findSome? fun format =>
    ((config.formatQuality.lookup format).filter (!isUsableQuality ·)).map fun quality =>
      (format, quality)

/-- Check the qualities, the default one first. -/
def checkQualities (config : ProcessingConfig) : Except ConfigFault Unit :=
  if !isUsableQuality config.quality then .error (.quality config.quality)
  else
    match config.unusableFormatQuality? with
    | some (format, quality) => .error (.formatQuality format quality)
    | none => .ok ()

/-- Check the separator of arguments. -/
def checkSeparator (config : ProcessingConfig) : Except ConfigFault Unit :=
  if config.separator = "" then .error .emptySeparator
  else if '/' ∈ config.separator.toList then .error (.slashInSeparator config.separator)
  else .ok ()

/-- Check that the presets can be loaded, that there are some where requests need them, and that all
of them can be applied. -/
def checkPresets (files : Files) (now : Int) (config : ProcessingConfig) :
    Except ConfigFault Unit :=
  match config.loadPresets files with
  | .error error => .error (.presets error)
  | .ok presets =>
    if config.onlyPresets && presets.isEmpty then .error .noPresets
    else
      match (presets.check now config.baseline).2 with
      | some error => .error (.presets error)
      | none => .ok ()

end ProcessingConfig

namespace SecurityConfig

/-- Whether a text is not a hexadecimal byte string. -/
def isInvalidHex (text : String) : Bool :=
  !(Codec.Hex.decode text).isOk

/-- Check the keys and the salts, all keys before the first salt, and then the length of
signatures. -/
def check (config : SecurityConfig) : Except ConfigFault Unit :=
  if config.keys.length ≠ config.salts.length then
    .error (.countMismatch config.keys.length config.salts.length)
  else
    match config.keys.findIdx? isInvalidHex, config.salts.findIdx? isInvalidHex with
    | some index, _ => .error (.invalidKey index)
    | none, some index => .error (.invalidSalt index)
    | none, none =>
      if config.signatureSize = 0 ∨ 32 < config.signatureSize then
        .error (.signatureSize config.signatureSize)
      else .ok ()

end SecurityConfig

/-- Check a configuration. -/
def Config.validate (files : Files) (now : Int) (config : Config) : Except ConfigFault Unit := do
  config.processing.checkQualities
  config.processing.checkSeparator
  config.processing.checkPresets files now
  config.security.check

end ImageRequest

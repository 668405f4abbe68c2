import ImageRequest.Options
import ImageRequest.Presets

/-!
# Configuration

What the service is configured with: how requests are read and which options they start from, the
keys that sign request paths, and the form of the log.
-/

namespace ImageRequest

/-- How requests are read, and the options they start from. -/
structure ProcessingConfig where
  /-- Quality used when neither the request nor its format has one. -/
  quality : Nat := 80
  /-- Quality by format, latest entry first. -/
  formatQuality : List (ImageFormat × Nat) := []
  stripMetadata : Bool := true
  stripColorProfile : Bool := true
  autoRotate : Bool := true
  /-- Formats that are passed on as they are. -/
  skippedFormats : List ImageFormat := []
  /-- Prefer WebP for clients that accept it. -/
  detectWebp : Bool := false
  /-- Always use WebP for clients that accept it. -/
  enforceWebp : Bool := false
  /-- Prefer AVIF for clients that accept it. -/
  detectAvif : Bool := false
  /-- Always use AVIF for clients that accept it. -/
  enforceAvif : Bool := false
  /-- Take the width and the pixel ratio from the headers of a request. -/
  clientHints : Bool := false
  /-- Requests name presets only. -/
  onlyPresets : Bool := false
  /-- Separator between a directive and its arguments. -/
  separator : String := ":"
  /-- Text put in front of every source address. -/
  baseUrl : String := ""
  /-- Definitions of presets. -/
  presets : List String := []
  /-- File with further definitions of presets. -/
  presetsPath? : Option String := none
deriving Repr, DecidableEq

/-- Keys and salts by position, and the length of signatures in bytes. -/
structure SecurityConfig where
  keys : List String := []
  salts : List String := []
  signatureSize : Nat := 32
deriving Repr, DecidableEq

/-- The form of the log. -/
inductive LogFormat where
  | json
  | pretty
deriving Repr, DecidableEq

/-- What is logged, and how. -/
structure LoggingConfig where
  level : String := "info"
  format : LogFormat := .json
deriving Repr, DecidableEq

/-- The whole configuration. -/
structure Config where
  processing : ProcessingConfig := {}
  security : SecurityConfig := {}
  logging : LoggingConfig := {}
deriving Repr, DecidableEq

namespace ProcessingConfig

/-- The options before any header or directive. -/
def baseline (config : ProcessingConfig) : Options :=
  .start config.stripMetadata config.stripColorProfile config.autoRotate config.skippedFormats

/-- The presets of the configuration. -/
def loadPresets (config : ProcessingConfig) (files : Files) : Except PresetError Presets :=
  Presets.load config.separator files config.presets config.presetsPath?

/-- The quality configured for a format, unless it is zero. -/
def qualityFor? (config : ProcessingConfig) (format : ImageFormat) : Option Nat :=
  (config.formatQuality.lookup format).filter (0 < ·)

end ProcessingConfig

/-- The quality to encode with: that of the options, else that of their format, else the default. -/
def Options.effectiveQuality (options : Options) (config : ProcessingConfig) : Nat :=
  if 0 < options.quality then options.quality
  else (options.format?.bind config.qualityFor?).getD config.quality

end ImageRequest

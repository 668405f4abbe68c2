import ImageRequest.Config
import ImageRequest.Config.Template
import ImageRequest.Yaml.Value

/-!
# Reading the configuration

The configuration is a YAML document with a section for each part of it. Sections and settings may
be missing, which leaves their defaults, and unknown ones are passed over; what is written twice or
has the wrong type makes the whole configuration unreadable. References to environment variables
are replaced in the text before it is read as YAML.
-/

namespace ImageRequest

open Yaml (Document Node Record)

/-- Why a configuration cannot be read. -/
inductive ConfigError where
  | unreadable (error : FileError)
  /-- A variable that is referred to is not set. -/
  | unset (name : String)
  /-- The text is not a YAML document with the settings of a configuration. -/
  | malformed
deriving Repr, DecidableEq

/-- The text of the error. -/
def ConfigError.message : ConfigError → String
  | .unreadable error => "Failed to read config file: " ++ error.message
  | .unset name => "Environment variable '" ++ name ++ "' is referenced but not set"
  | .malformed => "Invalid configuration file"

/-- A node as the name of a format. -/
def ImageFormat.ofNode? (document : Document) (node : Node) : Option ImageFormat :=
  (document.choice? node).bind ofName?

/-- The name of a form of the log. -/
def LogFormat.name : LogFormat → String
  | json => "json"
  | pretty => "pretty"

/-- A node as the name of a form of the log. -/
def LogFormat.ofNode? (document : Document) (node : Node) : Option LogFormat := do
  let name ← document.choice? node
  [json, pretty].find? (·.name = name)

namespace ProcessingConfig

/-- The greatest quality that can be written; whether it makes sense is another question. -/
def maxQuality : Nat := 255

/-- A node as qualities by format, latest entry first. -/
def qualitiesOfNode? (document : Document) (node : Node) : Option (List (ImageFormat × Nat)) := do
  let entries ← document.entries? ImageFormat.ofNode? node
  let qualities ← entries.mapM fun (format, node) => do
    return (format, ← document.natural? maxQuality node)
  return qualities.reverse

/-- The keys of the section. -/
def keys : List String :=
  ["quality", "format_quality", "strip_metadata", "strip_color_profile", "auto_rotate",
    "skip_processing_formats", "enable_webp_detection", "enforce_webp", "enable_avif_detection",
    "enforce_avif", "enable_client_hints", "only_presets", "arguments_separator", "base_url",
    "presets", "presets_path"]

/-- A node as the section. -/
def ofNode? (document : Document) (node : Node) : Option ProcessingConfig := do
  let record ← Record.ofNode? keys document node
  let start : ProcessingConfig := {}
  return {
    quality := ← record.get? "quality" (Document.natural? maxQuality) start.quality
    formatQuality := ← record.get? "format_quality" qualitiesOfNode? start.formatQuality
    stripMetadata := ← record.get? "strip_metadata" Document.bool? start.stripMetadata
    stripColorProfile := ← record.get? "strip_color_profile" Document.bool? start.stripColorProfile
    autoRotate := ← record.get? "auto_rotate" Document.bool? start.autoRotate
    skippedFormats := ← record.get? "skip_processing_formats" (Document.list? ImageFormat.ofNode?)
      start.skippedFormats
    detectWebp := ← record.get? "enable_webp_detection" Document.bool? start.detectWebp
    enforceWebp := ← record.get? "enforce_webp" Document.bool? start.enforceWebp
    detectAvif := ← record.get? "enable_avif_detection" Document.bool? start.detectAvif
    enforceAvif := ← record.get? "enforce_avif" Document.bool? start.enforceAvif
    clientHints := ← record.get? "enable_client_hints" Document.bool? start.clientHints
    onlyPresets := ← record.get? "only_presets" Document.bool? start.onlyPresets
    separator := ← record.get? "arguments_separator" Document.text? start.separator
    baseUrl := ← record.get? "base_url" Document.text? start.baseUrl
    presets := ← record.get? "presets" (Document.list? Document.text?) start.presets
    presetsPath? := ← record.get? "presets_path" (Document.optional? Document.text?)
      start.presetsPath? }

end ProcessingConfig

/-- The greatest length of signatures that can be written, a number of 64 bits. -/
def SecurityConfig.maxSignatureSize : Nat := 18446744073709551615

/-- A node as the section on security. -/
def SecurityConfig.ofNode? (document : Document) (node : Node) : Option SecurityConfig := do
  let record ← Record.ofNode? ["keys", "salts", "signature_size"] document node
  let start : SecurityConfig := {}
  return {
    keys := ← record.get? "keys" (Document.list? Document.text?) start.keys
    salts := ← record.get? "salts" (Document.list? Document.text?) start.salts
    signatureSize := ← record.get? "signature_size" (Document.natural? maxSignatureSize)
      start.signatureSize }

/-- A node as the section on the log. -/
def LoggingConfig.ofNode? (document : Document) (node : Node) : Option LoggingConfig := do
  let record ← Record.ofNode? ["level", "format"] document node
  let start : LoggingConfig := {}
  return {
    level := ← record.get? "level" Document.text? start.level
    format := ← record.get? "format" LogFormat.ofNode? start.format }

namespace Config

/-- The configuration in a document. -/
def ofDocument? (document : Document) : Option Config := do
  let record ← Record.ofNode? ["processing", "security", "logging"] document document.root
  return {
    processing := ← record.get? "processing" ProcessingConfig.ofNode? {}
    security := ← record.get? "security" SecurityConfig.ofNode? {}
    logging := ← record.get? "logging" LoggingConfig.ofNode? {} }

/-- The configuration in a YAML text. -/
def ofYaml? (text : String) : Option Config :=
  (Document.ofText? text).bind ofDocument?

/-- Read a configuration with references to variables. A reader gets the text without them. -/
def ofTextWith (read? : String → Option Config) (environment : Environment) (text : String) :
    Except ConfigError Config :=
  match (Template.ofText text).fill environment with
  | .error name => .error (.unset name)
  | .ok text =>
    match read? text with
    | some config => .ok config
    | none => .error .malformed

/-- Read a configuration in YAML with references to variables. -/
def ofText : Environment → String → Except ConfigError Config :=
  ofTextWith ofYaml?

/-- Read the configuration in a file. -/
def ofFile (files : Files) (environment : Environment) (path : String) :
    Except ConfigError Config :=
  match files path with
  | .error error => .error (.unreadable error)
  | .ok text => ofText environment text

end Config

end ImageRequest

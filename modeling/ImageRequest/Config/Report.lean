import ImageRequest.Config.Reading
import ImageRequest.Json

/-!
# Reports of the configuration

The JSON form of the configuration, with the names that its settings have in the file. The members
of every object stand in alphabetical order, and a path that is not set is left out.
-/

namespace ImageRequest

/-- The members of the section. -/
def ProcessingConfig.toJson (config : ProcessingConfig) : Json :=
  let qualities := ImageFormat.all.filterMap fun format =>
    (config.formatQuality.lookup format).map fun quality => (format.name, Json.int quality)
  let path := config.presetsPath?.toList.map fun path => ("presets_path", Json.string path)
  .object
    ([("arguments_separator", .string config.separator),
      ("auto_rotate", .bool config.autoRotate),
      ("base_url", .string config.baseUrl),
      ("enable_avif_detection", .bool config.detectAvif),
      ("enable_client_hints", .bool config.clientHints),
      ("enable_webp_detection", .bool config.detectWebp),
      ("enforce_avif", .bool config.enforceAvif),
      ("enforce_webp", .bool config.enforceWebp),
      ("format_quality", .object qualities),
      ("only_presets", .bool config.onlyPresets),
      ("presets", .list (config.presets.map .string))] ++ path ++
      [("quality", .int config.quality),
      ("skip_processing_formats", .list (config.skippedFormats.map fun format =>
        .string format.name)),
      ("strip_color_profile", .bool config.stripColorProfile),
      ("strip_metadata", .bool config.stripMetadata)])

/-- The members of the section on security. -/
def SecurityConfig.toJson (config : SecurityConfig) : Json :=
  .object
    [("keys", .list (config.keys.map .string)), ("salts", .list (config.salts.map .string)),
      ("signature_size", .int config.signatureSize)]

/-- The members of the section on the log. -/
def LoggingConfig.toJson (config : LoggingConfig) : Json :=
  .object [("format", .string config.format.name), ("level", .string config.level)]

/-- The sections of the configuration. -/
def Config.toJson (config : Config) : Json :=
  .object
    [("logging", config.logging.toJson), ("processing", config.processing.toJson),
      ("security", config.security.toJson)]

end ImageRequest

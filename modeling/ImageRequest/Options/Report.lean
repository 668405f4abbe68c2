import ImageRequest.Json
import ImageRequest.Options

/-!
# Reports of options

The JSON form of the options. The members of every object stand in alphabetical order.
-/

namespace ImageRequest

/-- The channels of a color. -/
def Color.toJson (color : Color) : Json :=
  .object
    [("b", .int color.blue.toNat), ("g", .int color.green.toNat), ("r", .int color.red.toNat)]

/-- An anchor with its offsets. -/
def Gravity.toJson (gravity : Gravity) : Json :=
  .object
    [("type", .string gravity.anchor.identifier), ("x", .float gravity.x), ("y", .float gravity.y)]

/-- The members of an extension. -/
def Extension.toJson (extension : Extension) : Json :=
  .object [("enabled", .bool extension.enabled), ("gravity", extension.gravity.toJson)]

/-- The members of a crop. -/
def Crop.toJson (crop : Crop) : Json :=
  .object
    [("gravity", crop.gravity.toJson), ("height", .float crop.height), ("width", .float crop.width)]

/-- The members of a padding. -/
def Padding.toJson (padding : Padding) : Json :=
  .object
    [("bottom", .int padding.bottom), ("enabled", .bool padding.enabled),
      ("left", .int padding.left), ("right", .int padding.right), ("top", .int padding.top)]

/-- The members of a trim. -/
def Trim.toJson (trim : Trim) : Json :=
  .object
    [("color", trim.color.toJson), ("enabled", .bool trim.enabled),
      ("equal_hor", .bool trim.equalHorizontally), ("equal_ver", .bool trim.equalVertically),
      ("smart", .bool trim.smart), ("threshold", .float trim.threshold)]

/-- The members of a watermark. -/
def Watermark.toJson (watermark : Watermark) : Json :=
  .object
    [("enabled", .bool watermark.enabled), ("gravity", watermark.gravity.toJson),
      ("opacity", .float watermark.opacity), ("replicate", .bool watermark.replicate),
      ("scale", .float watermark.scale)]

/-- The name of a format, or nothing. -/
def ImageFormat.toJson? : Option ImageFormat → Json
  | none => .null
  | some format => .string format.name

/-- The members of the options. -/
def Options.toJson (options : Options) : Json :=
  .object
    [("auto_rotate", .bool options.autoRotate),
      ("background", options.background.toJson),
      ("blur", .float options.blur),
      ("cache_buster", .string options.cacheBuster),
      ("crop", options.crop.toJson),
      ("dpr", .float options.dpr),
      ("enforce_avif", .bool options.enforceAvif),
      ("enforce_webp", .bool options.enforceWebp),
      ("enlarge", .bool options.enlarge),
      ("extend", options.extension.toJson),
      ("filename", .string options.filename),
      ("flatten", .bool options.flatten),
      ("format", ImageFormat.toJson? options.format?),
      ("gravity", options.gravity.toJson),
      ("height", .int options.height),
      ("max_bytes", .int options.maxBytes),
      ("min_height", .int options.minHeight),
      ("min_width", .int options.minWidth),
      ("padding", options.padding.toJson),
      ("prefer_avif", .bool options.preferAvif),
      ("prefer_webp", .bool options.preferWebp),
      ("quality", .int options.quality),
      ("resizing_type", .string options.resizingType.token),
      ("rotate", .int options.rotation),
      ("sharpen", .float options.sharpen),
      ("skip_processing_formats", .list (options.skippedFormats.map fun format =>
        .string format.name)),
      ("strip_color_profile", .bool options.stripColorProfile),
      ("strip_metadata", .bool options.stripMetadata),
      ("trim", options.trim.toJson),
      ("used_presets", .list (options.usedPresets.map .string)),
      ("watermark", options.watermark.toJson),
      ("width", .int options.width)]

end ImageRequest

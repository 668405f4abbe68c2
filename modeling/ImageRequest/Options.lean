import ImageRequest.Gravity

/-!
# Processing options

The options that a request ends up with. They start from the baseline, which carries what the
configuration fixes, and every directive of the request changes some of their fields.
-/

namespace ImageRequest

/-- Whether a smaller image is extended to the requested size, and where it is put. -/
structure Extension where
  enabled : Bool
  gravity : Gravity
deriving Repr, DecidableEq

/-- The area that is cut out; a zero side is not constrained. -/
structure Crop where
  width : Float
  height : Float
  gravity : Gravity
deriving Repr, DecidableEq

/-- Space around the image, in pixels. -/
structure Padding where
  enabled : Bool
  top : Nat
  right : Nat
  bottom : Nat
  left : Nat
deriving Repr, DecidableEq

/-- Whether there is no space on any side. -/
def Padding.isEmpty (padding : Padding) : Bool :=
  padding.top == 0 && padding.right == 0 && padding.bottom == 0 && padding.left == 0

/-- Removal of a uniform border. A smart removal finds the color of the border by itself. -/
structure Trim where
  enabled : Bool
  threshold : Float
  smart : Bool
  color : Color
  equalHorizontally : Bool
  equalVertically : Bool
deriving Repr, DecidableEq

/-- A mark laid over the image, once or as a tiling. -/
structure Watermark where
  enabled : Bool
  opacity : Float
  replicate : Bool
  gravity : Gravity
  scale : Float
deriving Repr, DecidableEq

/-- Everything that is asked of the processing of one image. -/
structure Options where
  resizingType : ResizingType
  width : Nat
  height : Nat
  minWidth : Nat
  minHeight : Nat
  /-- Device pixel ratio. -/
  dpr : Float
  gravity : Gravity
  enlarge : Bool
  extension : Extension
  crop : Crop
  padding : Padding
  trim : Trim
  /-- Clockwise angle in degrees. -/
  rotation : Int
  /-- Format of the result; the pipeline chooses if there is none. -/
  format? : Option ImageFormat
  /-- Quality of the result; zero stands for the configured quality. -/
  quality : Nat
  /-- Greatest size of the result in bytes; zero is no limit. -/
  maxBytes : Nat
  flatten : Bool
  background : Color
  blur : Float
  sharpen : Float
  stripMetadata : Bool
  stripColorProfile : Bool
  autoRotate : Bool
  watermark : Watermark
  preferWebp : Bool
  enforceWebp : Bool
  preferAvif : Bool
  enforceAvif : Bool
  /-- Formats that are passed on as they are. -/
  skippedFormats : List ImageFormat
  cacheBuster : String
  filename : String
  /-- Presets used so far, in the order of their use. -/
  usedPresets : List String
deriving Repr, DecidableEq

namespace Options

/-- The options before any directive, with the four fields that the configuration fixes. -/
def start (stripMetadata stripColorProfile autoRotate : Bool)
    (skippedFormats : List ImageFormat) : Options where
  resizingType := .fit
  width := 0
  height := 0
  minWidth := 0
  minHeight := 0
  dpr := 1.0
  gravity := .at .center
  enlarge := false
  extension := { enabled := false, gravity := .at .center }
  crop := { width := 0.0, height := 0.0, gravity := .at .center }
  padding := { enabled := false, top := 0, right := 0, bottom := 0, left := 0 }
  trim :=
    { enabled := false, threshold := 10.0, smart := true, color := .black
      equalHorizontally := false, equalVertically := false }
  rotation := 0
  format? := none
  quality := 0
  maxBytes := 0
  flatten := false
  background := .white
  blur := 0.0
  sharpen := 0.0
  stripMetadata := stripMetadata
  stripColorProfile := stripColorProfile
  autoRotate := autoRotate
  watermark :=
    { enabled := false, opacity := 1.0, replicate := false, gravity := .at .center, scale := 0.0 }
  preferWebp := false
  enforceWebp := false
  preferAvif := false
  enforceAvif := false
  skippedFormats := skippedFormats
  cacheBuster := ""
  filename := ""
  usedPresets := []

/-- Record that a preset is used from now on. -/
def use (options : Options) (preset : String) : Options :=
  { options with usedPresets := options.usedPresets ++ [preset] }

end Options

end ImageRequest

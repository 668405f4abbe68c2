import ImageRequest.Options

/-!
# Edits

An edit writes one field of the options. The fields that are records of their own have edits of
their own, so that a directive can change a part of such a record and leave the rest as it was.
No edit touches the list of used presets.
-/

namespace ImageRequest

/-- A change of a color. -/
inductive Color.Edit where
  | all (color : Color)
  | red (value : UInt8)
  | green (value : UInt8)
  | blue (value : UInt8)
deriving Repr, DecidableEq

/-- Change a color. -/
def Color.Edit.apply : Color.Edit → Color → Color
  | .all color, _ => color
  | .red value, color => { color with red := value }
  | .green value, color => { color with green := value }
  | .blue value, color => { color with blue := value }

/-- A change of an extension. -/
inductive Extension.Edit where
  | enabled (value : Bool)
  | gravity (placement : Placement)
deriving Repr, DecidableEq

/-- Change an extension. -/
def Extension.Edit.apply : Extension.Edit → Extension → Extension
  | .enabled value, extension => { extension with enabled := value }
  | .gravity placement, extension => { extension with gravity := extension.gravity.place placement }

/-- A change of a crop. -/
inductive Crop.Edit where
  | width (value : Float)
  | height (value : Float)
  | gravity (placement : Placement)
deriving Repr, DecidableEq

/-- Change a crop. -/
def Crop.Edit.apply : Crop.Edit → Crop → Crop
  | .width value, crop => { crop with width := value }
  | .height value, crop => { crop with height := value }
  | .gravity placement, crop => { crop with gravity := crop.gravity.place placement }

/-- A change of a padding. -/
inductive Padding.Edit where
  /-- Take the padding into account. -/
  | enable
  /-- The space on every side. -/
  | all (value : Nat)
  /-- The space on the right and on the left. -/
  | sides (value : Nat)
  | bottom (value : Nat)
  | left (value : Nat)
  /-- Leave the padding out of account if there is no space on any side. -/
  | disableIfEmpty
deriving Repr, DecidableEq

/-- Change a padding. -/
def Padding.Edit.apply : Padding.Edit → Padding → Padding
  | .enable, padding => { padding with enabled := true }
  | .all value, padding =>
    { padding with top := value, right := value, bottom := value, left := value }
  | .sides value, padding => { padding with right := value, left := value }
  | .bottom value, padding => { padding with bottom := value }
  | .left value, padding => { padding with left := value }
  | .disableIfEmpty, padding =>
    if padding.isEmpty then { padding with enabled := false } else padding

/-- A change of a trim. -/
inductive Trim.Edit where
  /-- Trim with this threshold. -/
  | threshold (value : Float)
  /-- Trim this color only. -/
  | color (value : Color)
  | equalHorizontally (value : Bool)
  | equalVertically (value : Bool)
deriving Repr, DecidableEq

/-- Change a trim. -/
def Trim.Edit.apply : Trim.Edit → Trim → Trim
  | .threshold value, trim => { trim with threshold := value, enabled := true }
  | .color value, trim => { trim with color := value, smart := false }
  | .equalHorizontally value, trim => { trim with equalHorizontally := value }
  | .equalVertically value, trim => { trim with equalVertically := value }

/-- A change of a watermark. -/
inductive Watermark.Edit where
  /-- The opacity; a watermark without any is switched off. -/
  | opacity (value : Float)
  /-- Tile the watermark over the image. -/
  | replicate
  | anchor (value : Anchor)
  | x (value : Float)
  | y (value : Float)
  | scale (value : Float)
deriving Repr, DecidableEq

/-- Change a watermark. -/
def Watermark.Edit.apply : Watermark.Edit → Watermark → Watermark
  | .opacity value, watermark => { watermark with opacity := value, enabled := 0.0 < value }
  | .replicate, watermark => { watermark with replicate := true }
  | .anchor value, watermark =>
    { watermark with gravity := { watermark.gravity with anchor := value } }
  | .x value, watermark => { watermark with gravity := { watermark.gravity with x := value } }
  | .y value, watermark => { watermark with gravity := { watermark.gravity with y := value } }
  | .scale value, watermark => { watermark with scale := value }

/-- A change of one field of the options. -/
inductive Edit where
  | resizingType (value : ResizingType)
  | width (value : Nat)
  | height (value : Nat)
  | minWidth (value : Nat)
  | minHeight (value : Nat)
  | dpr (value : Float)
  | gravity (placement : Placement)
  | enlarge (value : Bool)
  | extension (edit : Extension.Edit)
  | crop (edit : Crop.Edit)
  | padding (edit : Padding.Edit)
  | trim (edit : Trim.Edit)
  | rotation (value : Int)
  | format (value : ImageFormat)
  | quality (value : Nat)
  | maxBytes (value : Nat)
  | flatten (value : Bool)
  | background (edit : Color.Edit)
  | blur (value : Float)
  | sharpen (value : Float)
  | stripMetadata (value : Bool)
  | stripColorProfile (value : Bool)
  | autoRotate (value : Bool)
  | watermark (edit : Watermark.Edit)
  /-- One more format to be passed on as it is. -/
  | skip (value : ImageFormat)
  | cacheBuster (value : String)
  | filename (value : String)
deriving Repr, DecidableEq

namespace Edit

/-- Change the options. -/
def apply : Edit → Options → Options
  | .resizingType value, o => { o with resizingType := value }
  | .width value, o => { o with width := value }
  | .height value, o => { o with height := value }
  | .minWidth value, o => { o with minWidth := value }
  | .minHeight value, o => { o with minHeight := value }
  | .dpr value, o => { o with dpr := value }
  | .gravity placement, o => { o with gravity := o.gravity.place placement }
  | .enlarge value, o => { o with enlarge := value }
  | .extension edit, o => { o with extension := edit.apply o.extension }
  | .crop edit, o => { o with crop := edit.apply o.crop }
  | .padding edit, o => { o with padding := edit.apply o.padding }
  | .trim edit, o => { o with trim := edit.apply o.trim }
  | .rotation value, o => { o with rotation := value }
  | .format value, o => { o with format? := some value }
  | .quality value, o => { o with quality := value }
  | .maxBytes value, o => { o with maxBytes := value }
  | .flatten value, o => { o with flatten := value }
  | .background edit, o => { o with background := edit.apply o.background }
  | .blur value, o => { o with blur := value }
  | .sharpen value, o => { o with sharpen := value }
  | .stripMetadata value, o => { o with stripMetadata := value }
  | .stripColorProfile value, o => { o with stripColorProfile := value }
  | .autoRotate value, o => { o with autoRotate := value }
  | .watermark edit, o => { o with watermark := edit.apply o.watermark }
  | .skip value, o => { o with skippedFormats := o.skippedFormats ++ [value] }
  | .cacheBuster value, o => { o with cacheBuster := value }
  | .filename value, o => { o with filename := value }

/-- Change the options by several edits, one after the other. -/
def applyAll (edits : List Edit) (options : Options) : Options :=
  edits.foldl (fun options edit => edit.apply options) options

@[simp] theorem usedPresets_apply (edit : Edit) (options : Options) :
    (edit.apply options).usedPresets = options.usedPresets := by
  cases edit <;> rfl

@[simp] theorem usedPresets_applyAll (edits : List Edit) (options : Options) :
    (applyAll edits options).usedPresets = options.usedPresets := by
  induction edits generalizing options with
  | nil => rfl
  | cons edit edits ih => simpa [applyAll] using ih (edit.apply options)

theorem applyAll_append (first second : List Edit) (options : Options) :
    applyAll (first ++ second) options = applyAll second (applyAll first options) := by
  simp [applyAll]

end Edit

end ImageRequest

import ImageRequest.Proofs.Options.Field

/-!
# Values of fields

The options are read field by field by `Options.value`. An edit leaves the values of all other
fields as they are, and the value that it gives to its own field depends on the earlier value of
that field alone.
-/

namespace ImageRequest

/-- What the options hold in a field, with all of its parts. -/
def Field.Value : Field → Type
  | resizingType => ResizingType
  | width | height | minWidth | minHeight | quality | maxBytes => Nat
  | dpr | blur | sharpen => Float
  | gravity => Gravity
  | enlarge | flatten | stripMetadata | stripColorProfile | autoRotate => Bool
  | extension => Extension
  | crop => Crop
  | padding => Padding
  | trim => Trim
  | rotation => Int
  | format => Option ImageFormat
  | background => Color
  | watermark => Watermark
  | skippedFormats => List ImageFormat
  | cacheBuster | filename => String

/-- The value of a field. -/
def Options.value (options : Options) : (field : Field) → field.Value
  | .resizingType => options.resizingType
  | .width => options.width
  | .height => options.height
  | .minWidth => options.minWidth
  | .minHeight => options.minHeight
  | .dpr => options.dpr
  | .gravity => options.gravity
  | .enlarge => options.enlarge
  | .extension => options.extension
  | .crop => options.crop
  | .padding => options.padding
  | .trim => options.trim
  | .rotation => options.rotation
  | .format => options.format?
  | .quality => options.quality
  | .maxBytes => options.maxBytes
  | .flatten => options.flatten
  | .background => options.background
  | .blur => options.blur
  | .sharpen => options.sharpen
  | .stripMetadata => options.stripMetadata
  | .stripColorProfile => options.stripColorProfile
  | .autoRotate => options.autoRotate
  | .watermark => options.watermark
  | .skippedFormats => options.skippedFormats
  | .cacheBuster => options.cacheBuster
  | .filename => options.filename

namespace Edit

variable {edit : Edit} {field : Field} {first second : Options}

/-- An edit leaves the other fields as they are. -/
theorem value_apply_of_ne (other : edit.field ≠ field) (options : Options) :
    (edit.apply options).value field = options.value field := by
  cases edit <;> cases field <;> first | rfl | exact absurd rfl other

theorem value_applyAll_of_ne {edits : List Edit} (others : ∀ edit ∈ edits, edit.field ≠ field)
    (options : Options) : (applyAll edits options).value field = options.value field := by
  refine applyAll_preserves (P := fun later => later.value field = options.value field) ?_ rfl
  intro edit mem later same
  rw [value_apply_of_ne (others edit mem), same]

/-- What an edit makes of its own field depends on that field alone. -/
theorem value_apply_congr_self (same : first.value edit.field = second.value edit.field) :
    (edit.apply first).value edit.field = (edit.apply second).value edit.field := by
  cases edit with
  | gravity placement => exact congrArg (Gravity.place · placement) same
  | extension edit => exact congrArg edit.apply same
  | crop edit => exact congrArg edit.apply same
  | padding edit => exact congrArg edit.apply same
  | trim edit => exact congrArg edit.apply same
  | background edit => exact congrArg edit.apply same
  | watermark edit => exact congrArg edit.apply same
  | skip value => exact congrArg (· ++ [value]) same
  | _ => rfl

theorem value_apply_congr (edit : Edit) (same : first.value field = second.value field) :
    (edit.apply first).value field = (edit.apply second).value field := by
  by_cases own : edit.field = field
  · subst own
    exact value_apply_congr_self same
  · rw [value_apply_of_ne own, value_apply_of_ne own, same]

theorem value_applyAll_congr (edits : List Edit) (same : first.value field = second.value field) :
    (applyAll edits first).value field = (applyAll edits second).value field := by
  induction edits generalizing first second with
  | nil => exact same
  | cons edit edits ih => exact ih (value_apply_congr edit same)

end Edit

end ImageRequest

import ImageRequest.Proofs.Options.Field
import ImageRequest.Proofs.Setting.Valid

/-!
# Fields that settings write

`Setting.fields` lists the fields that the directives of a setting can write, whatever their
arguments are. The composed settings write the fields of their parts, and `expires` writes none.
-/

namespace ImageRequest

namespace Setting

/-- The fields that a setting can write. -/
def fields : Setting → List Field
  | resize => [.resizingType, .width, .height, .enlarge, .extension]
  | size => [.width, .height, .enlarge, .extension]
  | resizingType => [.resizingType]
  | width => [.width]
  | height => [.height]
  | minWidth => [.minWidth]
  | minHeight => [.minHeight]
  | dpr => [.dpr]
  | enlarge => [.enlarge]
  | extend => [.extension]
  | gravity => [.gravity]
  | crop => [.crop]
  | trim => [.trim]
  | padding => [.padding]
  | autoRotate => [.autoRotate]
  | rotate => [.rotation]
  | background => [.flatten, .background]
  | blur => [.blur]
  | sharpen => [.sharpen]
  | watermark => [.watermark]
  | stripMetadata => [.stripMetadata]
  | stripColorProfile => [.stripColorProfile]
  | quality => [.quality]
  | maxBytes => [.maxBytes]
  | format => [.format]
  | skipProcessing => [.skippedFormats]
  | cacheBuster => [.cacheBuster]
  | expires => []
  | filename => [.filename]

end Setting

namespace Script.AllEdits

variable {P : Edit → Prop}

theorem pixels {label : String} {edit : Nat → Edit} (each : ∀ value, P (edit value))
    (arguments : List String) : AllEdits P (Script.pixels label edit arguments) :=
  .single fun _ => .store fun value _ => each value

theorem switch {label : String} {edit : Bool → Edit} (each : ∀ value, P (edit value))
    (arguments : List String) : AllEdits P (Script.switch label edit arguments) :=
  .single fun _ => .flag each

theorem amount {label : String} {edit : Float → Edit} (each : ∀ value, P (edit value))
    (arguments : List String) : AllEdits P (Script.amount label edit arguments) :=
  .single fun _ => .store fun value _ => each value

theorem extensionGravity (each : ∀ placement, P (.extension (.gravity placement)))
    (tokens : List String) : AllEdits P (Script.extensionGravity tokens) := by
  unfold Script.extensionGravity
  split
  · exact .reject _
  · refine .append (.write (each _)) ?_
    split
    · exact .reject _
    · exact .done

theorem extend (each : ∀ edit, P (.extension edit)) (arguments : List String) :
    AllEdits P (Script.extend arguments) := by
  unfold Script.extend
  split
  · exact .reject _
  · split
    · exact .reject _
    · refine .append (.flag fun _ => each _) ?_
      split
      · exact .done
      · exact extensionGravity (fun _ => each _) _

theorem size (width : ∀ value, P (.width value)) (height : ∀ value, P (.height value))
    (enlarge : ∀ value, P (.enlarge value)) (extension : ∀ edit, P (.extension edit))
    (arguments : List String) : AllEdits P (Script.size arguments) := by
  unfold Script.size
  split
  · exact .reject _
  · refine .append (.append (.append ?_ ?_) ?_) ?_
    · exact .slot fun token => pixels width [token]
    · exact .slot fun token => pixels height [token]
    · exact .slot fun token => switch enlarge [token]
    · exact .slot fun _ => extend extension (arguments.drop 3)

theorem resize (resizingType : ∀ value, P (.resizingType value))
    (size : ∀ arguments, AllEdits P (Script.size arguments)) (arguments : List String) :
    AllEdits P (Script.resize arguments) := by
  unfold Script.resize
  split
  · exact .reject _
  · rename_i rest
    split
    · exact .reject _
    · refine .append (.slot fun token => ?_) (size rest)
      exact .single fun _ => .store fun value _ => resizingType value

theorem crop (each : ∀ edit, P (.crop edit)) (arguments : List String) :
    AllEdits P (Script.crop arguments) := by
  unfold Script.crop
  split
  · exact .reject _
  · split
    · exact .reject _
    · refine .append (.store fun _ _ => each _) ?_
      split
      · exact .done
      · refine .append (.store fun _ _ => each _) ?_
        split
        · exact .done
        · exact .store fun _ _ => each _

theorem trim (each : ∀ edit, P (.trim edit)) (arguments : List String) :
    AllEdits P (Script.trim arguments) := by
  unfold Script.trim
  split
  · exact .reject _
  · split
    · exact .reject _
    · refine .append (.append (.append ?_ ?_) ?_) ?_
      · exact .store fun _ _ => each _
      · exact .slot fun _ => .store fun _ _ => each _
      · exact .slot fun _ => .flag fun _ => each _
      · exact .slot fun _ => .flag fun _ => each _

theorem padding (each : ∀ edit, P (.padding edit)) (arguments : List String) :
    AllEdits P (Script.padding arguments) := by
  intro accepted edit mem
  obtain ⟨change, rfl⟩ := exists_of_mem_edits_padding accepted mem
  exact each change

theorem background (flatten : ∀ value, P (.flatten value)) (each : ∀ edit, P (.background edit))
    (arguments : List String) : AllEdits P (Script.background arguments) := by
  unfold Script.background
  split
  · exact .write (flatten false)
  · exact .append (.store fun _ _ => each _) (.write (flatten true))
  · refine .append (.append (.append (.write (flatten true)) ?_) ?_) ?_
    · exact .store fun _ _ => each _
    · exact .store fun _ _ => each _
    · exact .store fun _ _ => each _
  · exact .reject _

theorem watermark (each : ∀ edit, P (.watermark edit)) (arguments : List String) :
    AllEdits P (Script.watermark arguments) := by
  unfold Script.watermark
  split
  · exact .reject _
  · split
    · exact .reject _
    · refine .append (.append (.append (.append ?_ ?_) ?_) ?_) ?_
      · exact .store fun _ _ => each _
      · refine .slot fun token => ?_
        unfold position
        split
        · exact .write (each _)
        · exact .store fun _ _ => each _
      · exact .slot fun _ => .store fun _ _ => each _
      · exact .slot fun _ => .store fun _ _ => each _
      · exact .slot fun _ => .store fun _ _ => each _

theorem skipProcessing (each : ∀ value, P (.skip value)) (arguments : List String) :
    AllEdits P (Script.skipProcessing arguments) := by
  refine .sequence fun script mem => ?_
  obtain ⟨token, -, rfl⟩ := List.mem_map.1 mem
  exact .store fun value _ => each value

/-- The expiry makes no edits at all. -/
theorem expires (now : Int) (arguments : List String) :
    AllEdits P (Script.expires now arguments) := by
  refine .single fun token => ?_
  split
  · exact .reject _
  · split
    · exact .reject _
    · exact .done

end Script.AllEdits

open Script in
/-- A setting writes its fields and no others, unless it is rejected. -/
theorem Setting.field_mem_fields (now : Int) (setting : Setting) (arguments : List String) :
    (setting.script now arguments).AllEdits (·.field ∈ setting.fields) := by
  have own : ∀ {field : Field}, field ∈ [field] := List.mem_singleton_self _
  cases setting with
  | resize =>
      refine .resize (fun _ => ?_) (.size (fun _ => ?_) (fun _ => ?_) (fun _ => ?_) fun _ => ?_) arguments
      all_goals simp [fields, Edit.field]
  | size =>
      refine .size (fun _ => ?_) (fun _ => ?_) (fun _ => ?_) (fun _ => ?_) arguments
      all_goals simp [fields, Edit.field]
  | resizingType => exact .single fun _ => .store fun _ _ => own
  | width => exact .pixels (fun _ => own) arguments
  | height => exact .pixels (fun _ => own) arguments
  | minWidth => exact .pixels (fun _ => own) arguments
  | minHeight => exact .pixels (fun _ => own) arguments
  | dpr => exact .single fun _ => .store fun _ _ => own
  | enlarge => exact .switch (fun _ => own) arguments
  | extend => exact .extend (fun _ => own) arguments
  | gravity => exact .store fun _ _ => own
  | crop => exact .crop (fun _ => own) arguments
  | trim => exact .trim (fun _ => own) arguments
  | padding => exact .padding (fun _ => own) arguments
  | autoRotate => exact .switch (fun _ => own) arguments
  | rotate => exact .single fun _ => .store fun _ _ => own
  | background =>
      refine .background (fun _ => ?_) (fun _ => ?_) arguments
      all_goals simp [fields, Edit.field]
  | blur => exact .amount (fun _ => own) arguments
  | sharpen => exact .amount (fun _ => own) arguments
  | watermark => exact .watermark (fun _ => own) arguments
  | stripMetadata => exact .switch (fun _ => own) arguments
  | stripColorProfile => exact .switch (fun _ => own) arguments
  | quality => exact .single fun _ => .store fun _ _ => own
  | maxBytes => exact .single fun _ => .store fun _ _ => own
  | format => exact .single fun _ => .store fun _ _ => own
  | skipProcessing => exact .skipProcessing (fun _ => own) arguments
  | cacheBuster => exact .single fun _ => .write own
  | expires => exact .expires now arguments
  | filename => exact .single fun _ => .write own

/-- What is read from the edits of one field only is not found where a setting writes other fields.
-/
theorem Setting.filterMap_edits_eq_nil {α : Type} {view : Edit → Option α} {field : Field}
    (own : ∀ edit, edit.field ≠ field → view edit = none) {now : Int} {setting : Setting}
    {arguments : List String} (apart : field ∉ setting.fields)
    (accepted : (setting.script now arguments).rejection? = none) :
    (setting.script now arguments).edits.filterMap view = [] := by
  refine List.filterMap_eq_nil_iff.2 fun edit mem => own edit fun same => apart ?_
  exact same ▸ setting.field_mem_fields now arguments accepted edit mem

end ImageRequest

import ImageRequest.Proofs.Hints
import ImageRequest.Proofs.Script
import ImageRequest.Proofs.Token

/-!
# Valid options

What holds of the options of every request that goes through: amounts are finite and in their
ranges, anchors are among those that make sense where they stand, a padding is taken into account
exactly when there is some, and a format that is enforced is preferred as well. `Options.Valid`
collects all of it.

The baseline is valid, hints keep options valid, and so does every edit that is sound in itself.
The edits of a padding are the exception, since a padding is switched on before its lengths are
known; `Options.Open` says what holds in between.
-/

namespace ImageRequest

/-- The offsets of a gravity are finite. -/
structure Gravity.IsFinite (gravity : Gravity) : Prop where
  x : gravity.x.isFinite = true
  y : gravity.y.isFinite = true

structure Extension.Valid (extension : Extension) : Prop where
  notSmart : extension.gravity.anchor ≠ .smart
  finite : extension.gravity.IsFinite

structure Crop.Valid (crop : Crop) : Prop where
  width : IsAmount crop.width
  height : IsAmount crop.height
  finite : crop.gravity.IsFinite

/-- A padding is taken into account exactly when there is space on some side. -/
structure Padding.Valid (padding : Padding) : Prop where
  enabled_iff : padding.enabled = true ↔
    padding.top ≠ 0 ∨ padding.right ≠ 0 ∨ padding.bottom ≠ 0 ∨ padding.left ≠ 0

structure Watermark.Valid (watermark : Watermark) : Prop where
  opacity : IsAmount watermark.opacity ∧ watermark.opacity ≤ 1.0
  visible : watermark.enabled = true → 0.0 < watermark.opacity
  notSmart : watermark.gravity.anchor ≠ .smart
  notFocusPoint : watermark.gravity.anchor ≠ .focusPoint
  finite : watermark.gravity.IsFinite
  scale : IsAmount watermark.scale

/-- What holds of the options of every request that goes through. -/
structure Options.Valid (options : Options) : Prop where
  rotation : 90 ∣ options.rotation
  quality : options.quality ≤ 100
  dpr : options.dpr.isFinite = true ∧ 0.0 < options.dpr
  blur : IsAmount options.blur
  sharpen : IsAmount options.sharpen
  gravity : options.gravity.IsFinite
  extension : options.extension.Valid
  crop : options.crop.Valid
  padding : options.padding.Valid
  trim : IsAmount options.trim.threshold
  watermark : options.watermark.Valid
  webp : options.enforceWebp = true → options.preferWebp = true
  avif : options.enforceAvif = true → options.preferAvif = true

/-! ### Where requests start from -/

theorem isAmount_zero : IsAmount 0.0 := by
  constructor <;> decide

theorem Gravity.isFinite_at (anchor : Anchor) : (Gravity.at anchor).IsFinite where
  x := isAmount_zero.1
  y := isAmount_zero.1

theorem isAmount_one : IsAmount 1.0 := by
  constructor <;> decide

theorem isAmount_ten : IsAmount 10.0 := by
  constructor <;> decide

namespace Options

theorem valid_start (stripMetadata stripColorProfile autoRotate : Bool)
    (skippedFormats : List ImageFormat) :
    (start stripMetadata stripColorProfile autoRotate skippedFormats).Valid where
  rotation := Int.dvd_zero 90
  quality := Nat.zero_le 100
  dpr := ⟨isAmount_one.1, show (0.0 : Float) < 1.0 by decide⟩
  blur := isAmount_zero
  sharpen := isAmount_zero
  gravity := Gravity.isFinite_at .center
  extension := { notSmart := nofun, finite := Gravity.isFinite_at .center }
  crop :=
    { width := isAmount_zero, height := isAmount_zero, finite := Gravity.isFinite_at .center }
  padding := { enabled_iff := by simp [start] }
  trim := isAmount_ten
  watermark :=
    { opacity := ⟨isAmount_one, show (1.0 : Float) ≤ 1.0 by decide⟩
      visible := nofun
      notSmart := nofun
      notFocusPoint := nofun
      finite := Gravity.isFinite_at .center
      scale := isAmount_zero }
  webp := nofun
  avif := nofun

/-- A preset that is recorded as used does not touch what is asked for. -/
theorem Valid.use {options : Options} (valid : options.Valid) (preset : String) :
    (options.use preset).Valid :=
  { valid with }

/-- A format that is enforced is preferred as well, whether its flags are those of the configuration
or those from before. -/
theorem Negotiated.preferred {headers : Headers} {mediaType : String} {detected enforced : Bool}
    {before after : Bool × Bool}
    (flags : Preferably (Negotiated headers mediaType detected enforced) (· = before) after)
    (valid : before.2 = true → before.1 = true) : after.2 = true → after.1 = true := by
  rcases flags with ⟨-, rfl⟩ | ⟨-, rfl⟩
  · exact fun enforced => Bool.or_eq_true_iff.2 (.inr enforced)
  · exact valid

theorem Overlaid.valid {config : ProcessingConfig} {headers : Headers} {before after : Options}
    (overlaid : Overlaid config headers before after) (valid : before.Valid) : after.Valid := by
  have dpr : after.dpr.isFinite = true ∧ 0.0 < after.dpr := by
    rcases overlaid.dpr with ⟨-, value, -, numeral, positive, -⟩ | ⟨-, same⟩
    · exact ⟨Numeral.isFinite_of_float? numeral, positive⟩
    · rw [same]
      exact valid.dpr
  have webp := Negotiated.preferred overlaid.webp valid.webp
  have avif := Negotiated.preferred overlaid.avif valid.avif
  rw [overlaid.others]
  exact { valid with dpr, webp, avif }

theorem Valid.withHints {options : Options} (valid : options.Valid) (config : ProcessingConfig)
    (headers : Headers) : (options.withHints config headers).Valid :=
  (overlaid_iff.2 rfl).valid valid

end Options

/-! ### Sound edits -/

theorem Gravity.IsFinite.place {gravity : Gravity} {placement : Placement}
    (finite : gravity.IsFinite) (sound : placement.Sound) : (gravity.place placement).IsFinite where
  x := by
    cases given : placement.x? with
    | none => simpa [Gravity.place, given] using finite.x
    | some offset => simpa [Gravity.place, given] using (sound.x offset given).1
  y := by
    cases given : placement.y? with
    | none => simpa [Gravity.place, given] using finite.y
    | some offset => simpa [Gravity.place, given] using (sound.y offset given).1

/-- What is written to an extension is allowed there. -/
def Extension.Edit.Sound : Extension.Edit → Prop
  | .enabled _ => True
  | .gravity placement => placement.Sound ∧ placement.anchor ≠ .smart

/-- What is written to a crop is allowed there. -/
def Crop.Edit.Sound : Crop.Edit → Prop
  | .width value => IsAmount value
  | .height value => IsAmount value
  | .gravity placement => placement.Sound

/-- What is written to a trim is allowed there. -/
def Trim.Edit.Sound : Trim.Edit → Prop
  | .threshold value => IsAmount value
  | _ => True

/-- What is written to a watermark is allowed there. -/
def Watermark.Edit.Sound : Watermark.Edit → Prop
  | .opacity value => IsAmount value ∧ value ≤ 1.0
  | .replicate => True
  | .anchor value => value ≠ .smart ∧ value ≠ .focusPoint
  | .x value => value.isFinite = true
  | .y value => value.isFinite = true
  | .scale value => IsAmount value

/-- What is written to the options is allowed there. The edits of a padding make sense only
together, so that none of them is sound in itself. -/
def Edit.Sound : Edit → Prop
  | .dpr value => value.isFinite = true ∧ 0.0 < value
  | .gravity placement => placement.Sound
  | .extension edit => edit.Sound
  | .crop edit => edit.Sound
  | .padding _ => False
  | .trim edit => edit.Sound
  | .rotation value => 90 ∣ value
  | .quality value => value ≤ 100
  | .blur value => IsAmount value
  | .sharpen value => IsAmount value
  | .watermark edit => edit.Sound
  | _ => True

theorem Extension.Valid.apply {extension : Extension} {edit : Extension.Edit}
    (valid : extension.Valid) (sound : edit.Sound) : (edit.apply extension).Valid := by
  cases edit with
  | enabled value => exact { valid with }
  | gravity placement => exact { notSmart := sound.2, finite := valid.finite.place sound.1 }

theorem Crop.Valid.apply {crop : Crop} {edit : Crop.Edit} (valid : crop.Valid)
    (sound : edit.Sound) : (edit.apply crop).Valid := by
  cases edit with
  | width value => exact { valid with width := sound }
  | height value => exact { valid with height := sound }
  | gravity placement => exact { valid with finite := valid.finite.place sound }

theorem Trim.Edit.Sound.isAmount_apply {trim : Trim} {edit : Trim.Edit} (sound : edit.Sound)
    (valid : IsAmount trim.threshold) : IsAmount (edit.apply trim).threshold := by
  cases edit with
  | threshold value => exact sound
  | color value => exact valid
  | equalHorizontally value => exact valid
  | equalVertically value => exact valid

theorem Watermark.Valid.apply {watermark : Watermark} {edit : Watermark.Edit}
    (valid : watermark.Valid) (sound : edit.Sound) : (edit.apply watermark).Valid := by
  cases edit with
  | opacity value =>
      exact { valid with opacity := sound, visible := fun enabled => of_decide_eq_true enabled }
  | replicate => exact { valid with }
  | anchor value =>
      exact
        { valid with
          notSmart := sound.1
          notFocusPoint := sound.2
          finite := { valid.finite with } }
  | x value => exact { valid with finite := { valid.finite with x := sound } }
  | y value => exact { valid with finite := { valid.finite with y := sound } }
  | scale value => exact { valid with scale := sound }

/-- A sound edit keeps options valid. -/
theorem Options.Valid.apply {options : Options} {edit : Edit} (valid : options.Valid)
    (sound : edit.Sound) : (edit.apply options).Valid := by
  cases edit with
  | dpr value => exact { valid with dpr := sound }
  | gravity placement => exact { valid with gravity := valid.gravity.place sound }
  | extension edit => exact { valid with extension := valid.extension.apply sound }
  | crop edit => exact { valid with crop := valid.crop.apply sound }
  -- paddings are left to `Options.Open`
  | padding edit => exact sound.elim
  | trim edit => exact { valid with trim := sound.isAmount_apply valid.trim }
  | rotation value => exact { valid with rotation := sound }
  | quality value => exact { valid with quality := sound }
  | blur value => exact { valid with blur := sound }
  | sharpen value => exact { valid with sharpen := sound }
  | watermark edit => exact { valid with watermark := valid.watermark.apply sound }
  | _ => exact { valid with }

/-! ### Paddings -/

/-- Options that are valid but for a padding that is taken into account, whatever its lengths. -/
def Options.Open (options : Options) : Prop :=
  options.padding.enabled = true ∧ ∃ padding, { options with padding := padding }.Valid

/-- An edit that writes lengths of a padding and nothing else. -/
def Padding.Edit.IsLength : Padding.Edit → Prop
  | .enable => False
  | .disableIfEmpty => False
  | _ => True

theorem Padding.Edit.IsLength.enabled_apply {edit : Padding.Edit} (length : edit.IsLength)
    (padding : Padding) : (edit.apply padding).enabled = padding.enabled := by
  cases edit with
  | enable => exact length.elim
  | disableIfEmpty => exact length.elim
  | _ => rfl

theorem Padding.valid_disableIfEmpty {padding : Padding} (enabled : padding.enabled = true) :
    (Padding.Edit.disableIfEmpty.apply padding).Valid where
  enabled_iff := by
    simp only [Padding.Edit.apply]
    by_cases empty : padding.isEmpty = true
    · rw [if_pos empty]
      simp only [Padding.isEmpty, Bool.and_eq_true, beq_iff_eq] at empty
      simp [empty]
    · rw [if_neg empty]
      simp only [Padding.isEmpty, Bool.and_eq_true, beq_iff_eq] at empty
      simp only [enabled, true_iff]
      omega

theorem Options.Valid.enablePadding {options : Options} (valid : options.Valid) :
    ((Edit.padding .enable).apply options).Open :=
  ⟨rfl, options.padding, valid⟩

theorem Options.Open.apply {options : Options} {edit : Padding.Edit} (started : options.Open)
    (length : edit.IsLength) : ((Edit.padding edit).apply options).Open := by
  obtain ⟨enabled, padding, valid⟩ := started
  refine ⟨?_, padding, valid⟩
  rw [← enabled]
  exact length.enabled_apply options.padding

theorem Options.Open.disablePaddingIfEmpty {options : Options} (started : options.Open) :
    ((Edit.padding .disableIfEmpty).apply options).Valid := by
  obtain ⟨enabled, padding, valid⟩ := started
  exact { valid with padding := Padding.valid_disableIfEmpty enabled }

end ImageRequest

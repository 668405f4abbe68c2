import ImageRequest.Proofs.Numeral.Finite
import ImageRequest.Proofs.Options.Valid

/-!
# Settings keep options valid

Every edit of a setting that is not rejected is sound, with the padding as the one exception; the
script of a padding first opens the options, then writes lengths, and closes them again. From both
follows `Setting.valid_applyAll`: a setting that is not rejected keeps valid options valid.
-/

namespace ImageRequest

namespace Script

theorem sound_pixels {label : String} {edit : Nat → Edit} (sound : ∀ value, (edit value).Sound)
    (arguments : List String) : (pixels label edit arguments).AllEdits Edit.Sound :=
  .single fun _ => .store fun value _ => sound value

theorem sound_switch {label : String} {edit : Bool → Edit} (sound : ∀ value, (edit value).Sound)
    (arguments : List String) : (switch label edit arguments).AllEdits Edit.Sound :=
  .single fun _ => .flag sound

theorem sound_amount {label : String} {edit : Float → Edit}
    (sound : ∀ value, IsAmount value → (edit value).Sound) (arguments : List String) :
    (amount label edit arguments).AllEdits Edit.Sound :=
  .single fun _ => .store fun value read => sound value (Token.nonNegativeFloat_eq_ok read)

theorem sound_resizingType (arguments : List String) :
    (resizingType arguments).AllEdits Edit.Sound :=
  .single fun _ => .store fun _ _ => trivial

/-- A smart gravity is written as well, but then the script is rejected. -/
theorem sound_extensionGravity (tokens : List String) :
    (extensionGravity tokens).AllEdits Edit.Sound := by
  unfold extensionGravity
  cases read : Placement.ofTokens tokens with
  | error rejection => exact .reject rejection
  | ok placement =>
      -- the write alone is not sound, so that the rejection behind it has to be looked at
      by_cases smart : placement.anchor = .smart
      · intro accepted
        simp only [if_pos smart, rejection?_append_eq_none] at accepted
        cases accepted.2
      · simp only [if_neg smart, append_done]
        exact .write ⟨Placement.sound_of_ofTokens read, smart⟩

theorem sound_extend (arguments : List String) : (extend arguments).AllEdits Edit.Sound := by
  unfold extend
  split
  · exact .reject _
  · rename_i enabled rest
    split
    · exact .reject _
    · refine .append (.flag fun _ => trivial) ?_
      split
      · exact .done
      · exact sound_extensionGravity rest

theorem sound_size (arguments : List String) : (size arguments).AllEdits Edit.Sound := by
  unfold size
  split
  · exact .reject _
  · refine .append (.append (.append (.slot fun token => ?_) (.slot fun token => ?_))
      (.slot fun token => ?_)) (.slot fun _ => ?_)
    · exact sound_pixels (fun _ => by trivial) [token]
    · exact sound_pixels (fun _ => by trivial) [token]
    · exact sound_switch (fun _ => by trivial) [token]
    · exact sound_extend (arguments.drop 3)

theorem sound_resize (arguments : List String) : (resize arguments).AllEdits Edit.Sound := by
  unfold resize
  split
  · exact .reject _
  · rename_i rest
    split
    · exact .reject _
    · exact .append (.slot fun token => sound_resizingType [token]) (sound_size rest)

theorem sound_gravity (arguments : List String) : (gravity arguments).AllEdits Edit.Sound :=
  .store fun _ read => Placement.sound_of_ofTokens read

theorem sound_crop (arguments : List String) : (crop arguments).AllEdits Edit.Sound := by
  unfold crop
  split
  · exact .reject _
  · split
    · exact .reject _
    · refine .append (.store fun _ read => Token.nonNegativeFloat_eq_ok read) ?_
      split
      · exact .done
      · refine .append (.store fun _ read => Token.nonNegativeFloat_eq_ok read) ?_
        split
        · exact .done
        · exact .store fun _ read => Placement.sound_of_ofTokens read

theorem sound_trim (arguments : List String) : (trim arguments).AllEdits Edit.Sound := by
  unfold trim
  split
  · exact .reject _
  · split
    · exact .reject _
    · refine .append (.append (.append ?_ ?_) ?_) ?_
      · exact .store fun _ read => Token.nonNegativeFloat_eq_ok read
      · exact .slot fun _ => .store fun _ _ => trivial
      · exact .slot fun _ => .flag fun _ => trivial
      · exact .slot fun _ => .flag fun _ => trivial

theorem sound_background (arguments : List String) :
    (background arguments).AllEdits Edit.Sound := by
  unfold background
  split
  · exact .write trivial
  · exact .append (.store fun _ _ => trivial) (.write trivial)
  · refine .append (.append (.append (.write trivial) ?_) ?_) ?_
    · exact .store fun _ _ => trivial
    · exact .store fun _ _ => trivial
    · exact .store fun _ _ => trivial
  · exact .reject _

theorem sound_position (token : String) : (position token).AllEdits Edit.Sound := by
  unfold position
  split
  · exact .write trivial
  · refine .store fun anchor read => ?_
    rw [Token.require_eq_ok, Option.filter_eq_some_iff] at read
    simpa [Edit.Sound, Watermark.Edit.Sound] using read.2

theorem sound_watermarkOffset {label : String} {edit : Float → Watermark.Edit}
    (sound : ∀ value, value.isFinite = true → (edit value).Sound) (token : String) :
    (watermarkOffset label edit token).AllEdits Edit.Sound := by
  refine .store fun value read => sound _ ?_
  obtain ⟨low, high⟩ := Token.integer_eq_ok read
  exact Numeral.isFinite_ofInt low high

theorem sound_watermark (arguments : List String) :
    (watermark arguments).AllEdits Edit.Sound := by
  unfold watermark
  split
  · exact .reject _
  · split
    · exact .reject _
    · refine .append (.append (.append (.append ?_ ?_) ?_) ?_) ?_
      · exact .store fun _ read => Token.unitFloat_eq_ok read
      · exact .slot sound_position
      · exact .slot (sound_watermarkOffset fun _ finite => finite)
      · exact .slot (sound_watermarkOffset fun _ finite => finite)
      · exact .slot fun _ => .store fun _ read => Token.nonNegativeFloat_eq_ok read

theorem sound_expires (now : Int) (arguments : List String) :
    (expires now arguments).AllEdits Edit.Sound := by
  refine .single fun token => ?_
  split
  · exact .reject _
  · split
    · exact .reject _
    · exact .done

end Script

open Script in
/-- What a setting writes is sound unless it is rejected, the padding apart. -/
theorem Setting.sound_script (now : Int) {setting : Setting} (other : setting ≠ .padding)
    (arguments : List String) : (setting.script now arguments).AllEdits Edit.Sound := by
  cases setting with
  | resize => exact sound_resize arguments
  | size => exact sound_size arguments
  | resizingType => exact sound_resizingType arguments
  | width => exact sound_pixels (fun _ => by trivial) arguments
  | height => exact sound_pixels (fun _ => by trivial) arguments
  | minWidth => exact sound_pixels (fun _ => by trivial) arguments
  | minHeight => exact sound_pixels (fun _ => by trivial) arguments
  | dpr => exact .single fun _ => .store fun _ read => Token.positiveFloat_eq_ok read
  | enlarge => exact sound_switch (fun _ => by trivial) arguments
  | extend => exact sound_extend arguments
  | gravity => exact sound_gravity arguments
  | crop => exact sound_crop arguments
  | trim => exact sound_trim arguments
  | padding => exact absurd rfl other
  | autoRotate => exact sound_switch (fun _ => by trivial) arguments
  | rotate => exact .single fun _ => .store fun _ read => Token.rotation_eq_ok read
  | background => exact sound_background arguments
  | blur => exact sound_amount (fun _ amount => by exact amount) arguments
  | sharpen => exact sound_amount (fun _ amount => by exact amount) arguments
  | watermark => exact sound_watermark arguments
  | stripMetadata => exact sound_switch (fun _ => by trivial) arguments
  | stripColorProfile => exact sound_switch (fun _ => by trivial) arguments
  | quality => exact .single fun _ => .store fun _ read => Token.quality_eq_ok read
  | maxBytes => exact .single fun _ => .store fun _ _ => trivial
  | format => exact .single fun _ => .store fun _ _ => trivial
  | skipProcessing =>
      refine .sequence fun script mem => ?_
      obtain ⟨token, -, rfl⟩ := List.mem_map.1 mem
      exact .store fun _ _ => trivial
  | cacheBuster => exact .single fun _ => .write trivial
  | expires => exact sound_expires now arguments
  | filename => exact .single fun _ => .write trivial

/-! ### Paddings -/

/-- An edit that writes lengths of the padding and nothing else. -/
def Edit.IsPaddingLength (edit : Edit) : Prop :=
  ∃ length : Padding.Edit, edit = .padding length ∧ length.IsLength

namespace Script

/-- The lengths that the arguments of a padding give. -/
def paddingLengths (arguments : List String) : Script :=
  slot arguments 0 (paddingLength "padding top (+all)" .all) ++
    slot arguments 1 (paddingLength "padding right (+left)" .sides) ++
    slot arguments 2 (paddingLength "padding bottom" .bottom) ++
    slot arguments 3 (paddingLength "padding left" .left)

/-- A padding writes its lengths between switching the padding on and switching it off again. -/
theorem padding_of_accepted {arguments : List String}
    (accepted : (padding arguments).rejection? = none) :
    padding arguments =
      write (.padding .enable) ++ (paddingLengths arguments ++ write (.padding .disableIfEmpty)) := by
  rw [padding] at accepted ⊢
  split at accepted
  · cases accepted
  · rename_i count
    simp only [if_neg count, paddingLengths, append_assoc]

theorem isPaddingLength_paddingLengths (arguments : List String) :
    (paddingLengths arguments).AllEdits Edit.IsPaddingLength := by
  refine .append (.append (.append ?_ ?_) ?_) ?_
  · exact .slot fun _ => .store fun _ _ => ⟨_, rfl, trivial⟩
  · exact .slot fun _ => .store fun _ _ => ⟨_, rfl, trivial⟩
  · exact .slot fun _ => .store fun _ _ => ⟨_, rfl, trivial⟩
  · exact .slot fun _ => .store fun _ _ => ⟨_, rfl, trivial⟩

/-- The edits of a padding that is not rejected: all of them change the padding, and those between
the first and the last write lengths. -/
theorem edits_padding {arguments : List String}
    (accepted : (padding arguments).rejection? = none) :
    ∃ lengths : List Edit, (∀ edit ∈ lengths, edit.IsPaddingLength) ∧
      (padding arguments).edits =
        .padding .enable :: (lengths ++ [.padding .disableIfEmpty]) := by
  have shape := padding_of_accepted accepted
  rw [shape] at accepted
  obtain ⟨started, rest⟩ := rejection?_append_eq_none.1 accepted
  obtain ⟨given, -⟩ := rejection?_append_eq_none.1 rest
  refine ⟨_, isPaddingLength_paddingLengths arguments given, ?_⟩
  rw [shape, edits_append started, edits_append given]
  rfl

theorem exists_of_mem_edits_padding {arguments : List String} {edit : Edit}
    (accepted : (padding arguments).rejection? = none) (mem : edit ∈ (padding arguments).edits) :
    ∃ change, edit = .padding change := by
  obtain ⟨lengths, each, edits⟩ := edits_padding accepted
  rw [edits, List.mem_cons, List.mem_append, List.mem_singleton] at mem
  rcases mem with rfl | mem | rfl
  · exact ⟨_, rfl⟩
  · obtain ⟨length, rfl, -⟩ := each edit mem
    exact ⟨_, rfl⟩
  · exact ⟨_, rfl⟩

theorem valid_padding {arguments : List String} {options : Options}
    (accepted : (padding arguments).rejection? = none) (valid : options.Valid) :
    (Edit.applyAll (padding arguments).edits options).Valid := by
  obtain ⟨lengths, each, edits⟩ := edits_padding accepted
  rw [edits, Edit.applyAll_cons, Edit.applyAll_append]
  have written : (Edit.applyAll lengths ((Edit.padding .enable).apply options)).Open := by
    refine Edit.applyAll_preserves (fun edit mem options started => ?_) valid.enablePadding
    obtain ⟨length, rfl, isLength⟩ := each edit mem
    exact started.apply isLength
  exact written.disablePaddingIfEmpty

end Script

/-- A setting that is not rejected keeps valid options valid. -/
theorem Setting.valid_applyAll {now : Int} {setting : Setting} {arguments : List String}
    {options : Options} (valid : options.Valid)
    (accepted : (setting.script now arguments).rejection? = none) :
    (Edit.applyAll (setting.script now arguments).edits options).Valid := by
  by_cases padding : setting = .padding
  · subst padding
    exact Script.valid_padding accepted valid
  · have sound := Setting.sound_script now padding arguments accepted
    exact Edit.applyAll_preserves (fun edit mem _ valid => valid.apply (sound edit mem)) valid

end ImageRequest

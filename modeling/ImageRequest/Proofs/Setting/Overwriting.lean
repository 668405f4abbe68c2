import ImageRequest.Proofs.Options.Value
import ImageRequest.Proofs.Presets.Plain
import ImageRequest.Proofs.Setting.Fields
import ImageRequest.Proofs.Token

/-!
# Settings that say everything

The longest form of a setting has an argument for every part of the fields that it writes. With all
of these arguments given, and none of them empty, nothing is left of what the fields held before:
their values after the directive are the same on whatever options it is run
(`value_run_of_isWhole`).

A field that is written by a single edit needs no more than that this edit be made. The fields with
parts of their own (the gravities, the extension, the crop, the padding, the trim and the color of
the background) need all of the edits that write one of their parts.
-/

namespace ImageRequest

namespace Placement

/-- A placement without an omitted offset. -/
def IsWhole (placement : Placement) : Prop :=
  placement.x?.isSome ∧ placement.y?.isSome

theorem isWhole_of_ofTokens {anchor x y : String} {placement : Placement}
    (read : ofTokens [anchor, x, y] = .ok placement) : placement.IsWhole := by
  obtain ⟨word, offsets, tokens, -, readX, readY⟩ := exists_of_ofTokens read
  obtain ⟨rfl, rfl⟩ := List.cons.inj tokens
  exact ⟨(offset?_eq_ok readX).2, (offset?_eq_ok readY).2⟩

/-- Nothing is left of the gravity that a whole placement is made on. -/
theorem IsWhole.place_eq_place {placement : Placement} (whole : placement.IsWhole)
    (first second : Gravity) : first.place placement = second.place placement := by
  obtain ⟨anchor, x?, y?⟩ := placement
  obtain ⟨x, rfl⟩ := Option.isSome_iff_exists.1 whole.1
  obtain ⟨y, rfl⟩ := Option.isSome_iff_exists.1 whole.2
  rfl

end Placement

/-- Nothing is left of what a field held before an edit. -/
def Edit.Overwrites (edit : Edit) (field : Field) : Prop :=
  ∀ first second : Options, (edit.apply first).value field = (edit.apply second).value field

namespace Script

/-- The values of some fields after a script are the same on all options, unless it is rejected. -/
def Determines (fields : List Field) (script : Script) : Prop :=
  script.rejection? = none → ∀ field ∈ fields, ∀ first second : Options,
    (Edit.applyAll script.edits first).value field =
      (Edit.applyAll script.edits second).value field

namespace Determines

theorem mono {fields others : List Field} {script : Script} (determines : Determines others script)
    (among : ∀ field ∈ fields, field ∈ others) : Determines fields script :=
  fun accepted field mem => determines accepted field (among field mem)

theorem reject (fields : List Field) (rejection : Rejection) :
    Determines fields (Script.reject rejection) := by
  intro accepted
  cases accepted

theorem write {edit : Edit} {field : Field} (whole : edit.Overwrites field) :
    Determines [field] (Script.write edit) := by
  intro _ other mem
  rcases List.mem_singleton.1 mem with rfl
  exact whole

theorem store {α : Type} {edit : α → Edit} {value : Except Rejection α} {field : Field}
    (whole : ∀ x, value = .ok x → (edit x).Overwrites field) :
    Determines [field] (Script.store edit value) := by
  cases value with
  | error rejection => exact reject [field] rejection
  | ok x => exact write (whole x rfl)

theorem flag {edit : Bool → Edit} {token : String} {field : Field}
    (whole : ∀ value, (edit value).Overwrites field) :
    Determines [field] (Script.flag edit token) := by
  intro _ other mem
  rcases List.mem_singleton.1 mem with rfl
  exact whole _

/-- What the first script has determined, the second one changes in the same way. -/
theorem append {field : Field} {fields : List Field} {first second : Script}
    (before : Determines [field] first) (after : Determines fields second) :
    Determines (field :: fields) (first ++ second) := by
  intro accepted other mem start start'
  obtain ⟨accepted₁, accepted₂⟩ := rejection?_append_eq_none.1 accepted
  rw [edits_append accepted₁, Edit.applyAll_append, Edit.applyAll_append]
  rcases List.mem_cons.1 mem with rfl | mem
  · have same := before accepted₁ other (List.mem_singleton_self other) start start'
    exact Edit.value_applyAll_congr _ same
  · exact after accepted₂ other mem _ _

theorem single {fields : List Field} {label : String} {arguments : List String}
    {use : String → Script} (each : ∀ token, Determines fields (use token)) :
    Determines fields (Script.single label arguments use) := by
  unfold Script.single
  split
  · exact each _
  · exact reject fields _

theorem pixels {label : String} {edit : Nat → Edit} {field : Field}
    (whole : ∀ value, (edit value).Overwrites field) (arguments : List String) :
    Determines [field] (Script.pixels label edit arguments) :=
  .single fun _ => .store fun value _ => whole value

theorem switch {label : String} {edit : Bool → Edit} {field : Field}
    (whole : ∀ value, (edit value).Overwrites field) (arguments : List String) :
    Determines [field] (Script.switch label edit arguments) :=
  .single fun _ => .flag whole

theorem amount {label : String} {edit : Float → Edit} {field : Field}
    (whole : ∀ value, (edit value).Overwrites field) (arguments : List String) :
    Determines [field] (Script.amount label edit arguments) :=
  .single fun _ => .store fun value _ => whole value

/-! ### Fields with parts -/

theorem extend (enabled anchor x y : String) :
    Determines [.extension] (Script.extend [enabled, anchor, x, y]) := by
  unfold Script.extend
  simp only
  rw [if_neg (by simp), if_neg (by simp)]
  intro accepted field mem first second
  rcases List.mem_singleton.1 mem with rfl
  obtain ⟨accepted₁, accepted₂⟩ := rejection?_append_eq_none.1 accepted
  rw [edits_append accepted₁]
  unfold extensionGravity at accepted₂ ⊢
  cases read : Placement.ofTokens [anchor, x, y] with
  | error rejection =>
      simp only [read] at accepted₂
      cases accepted₂
  | ok placement =>
      simp only [read] at accepted₂ ⊢
      split at accepted₂
      · cases accepted₂
      · rename_i notSmart
        simp only [if_neg notSmart, append_done]
        have gravity := (Placement.isWhole_of_ofTokens read).place_eq_place
          first.extension.gravity second.extension.gravity
        exact congrArg (Extension.mk (Token.bool enabled)) gravity

theorem crop (width height anchor x y : String) :
    Determines [.crop] (Script.crop [width, height, anchor, x, y]) := by
  unfold Script.crop
  simp only
  rw [if_neg (by simp), if_neg (by simp)]
  intro accepted field mem first second
  rcases List.mem_singleton.1 mem with rfl
  simp only [rejection?_append_eq_none] at accepted
  obtain ⟨accepted₁, accepted₂, accepted₃⟩ := accepted
  obtain ⟨width, -, writeWidth⟩ := store_eq_write accepted₁
  obtain ⟨height, -, writeHeight⟩ := store_eq_write accepted₂
  obtain ⟨placement, read, writeGravity⟩ := store_eq_write accepted₃
  rw [writeWidth, writeHeight, writeGravity]
  have gravity := (Placement.isWhole_of_ofTokens read).place_eq_place
    first.crop.gravity second.crop.gravity
  exact congrArg (Crop.mk width height) gravity

theorem padding {top right bottom left : String}
    (filled : top ≠ "" ∧ right ≠ "" ∧ bottom ≠ "" ∧ left ≠ "") :
    Determines [.padding] (Script.padding [top, right, bottom, left]) := by
  obtain ⟨filledTop, filledRight, filledBottom, filledLeft⟩ := filled
  intro accepted field mem first second
  rcases List.mem_singleton.1 mem with rfl
  have shape := padding_of_accepted accepted
  rw [paddingLengths, slot_of_ne rfl filledTop, slot_of_ne rfl filledRight,
    slot_of_ne rfl filledBottom, slot_of_ne rfl filledLeft] at shape
  rw [shape] at accepted ⊢
  simp only [rejection?_append_eq_none] at accepted
  obtain ⟨-, ⟨⟨⟨accepted₁, accepted₂⟩, accepted₃⟩, accepted₄⟩, -⟩ := accepted
  obtain ⟨top, -, writeTop⟩ := store_eq_write accepted₁
  obtain ⟨right, -, writeRight⟩ := store_eq_write accepted₂
  obtain ⟨bottom, -, writeBottom⟩ := store_eq_write accepted₃
  obtain ⟨left, -, writeLeft⟩ := store_eq_write accepted₄
  simp only [paddingLength, writeTop, writeRight, writeBottom, writeLeft]
  rfl

theorem trim {threshold color horizontally vertically : String}
    (filled : color ≠ "" ∧ horizontally ≠ "" ∧ vertically ≠ "") :
    Determines [.trim] (Script.trim [threshold, color, horizontally, vertically]) := by
  obtain ⟨filledColor, filledHorizontally, filledVertically⟩ := filled
  unfold Script.trim
  simp only
  rw [if_neg (by simp), slot_of_ne rfl filledColor, slot_of_ne rfl filledHorizontally,
    slot_of_ne rfl filledVertically]
  intro accepted field mem first second
  rcases List.mem_singleton.1 mem with rfl
  simp only [rejection?_append_eq_none] at accepted
  obtain ⟨⟨⟨accepted₁, accepted₂⟩, -⟩, -⟩ := accepted
  obtain ⟨threshold, -, writeThreshold⟩ := store_eq_write accepted₁
  obtain ⟨color, -, writeColor⟩ := store_eq_write accepted₂
  rw [writeThreshold, writeColor]
  rfl

theorem background_hex {hex : String} (filled : hex ≠ "") :
    Determines [.flatten, .background] (Script.background [hex]) := by
  rw [background_of_hex filled]
  -- the color is written before the flattening
  have both : Determines [.background, .flatten]
      (Script.store (fun value => .background (.all value))
        (Token.color "background argument" hex) ++ Script.write (.flatten true)) :=
    .append (.store fun _ _ _ _ => rfl) (.write fun _ _ => rfl)
  exact both.mono (by decide)

theorem background_channels (red green blue : String) :
    Determines [.flatten, .background] (Script.background [red, green, blue]) := by
  have shape : Script.background [red, green, blue] =
      Script.write (.flatten true) ++ (channel "background red channel" .red red ++
        (channel "background green channel" .green green ++
          channel "background blue channel" .blue blue)) := by
    rw [← append_assoc, ← append_assoc, background_of_three]
  rw [shape]
  refine .append (.write fun _ _ => rfl) ?_
  intro accepted field mem first second
  rcases List.mem_singleton.1 mem with rfl
  simp only [rejection?_append_eq_none] at accepted
  obtain ⟨accepted₁, accepted₂, accepted₃⟩ := accepted
  obtain ⟨red, -, writeRed⟩ := store_eq_write accepted₁
  obtain ⟨green, -, writeGreen⟩ := store_eq_write accepted₂
  obtain ⟨blue, -, writeBlue⟩ := store_eq_write accepted₃
  simp only [channel, writeRed, writeGreen, writeBlue]
  rfl

/-! ### Composed settings -/

theorem size {width height enlarge extend anchor x y : String}
    (filled : width ≠ "" ∧ height ≠ "" ∧ enlarge ≠ "" ∧ extend ≠ "") :
    Determines [.width, .height, .enlarge, .extension]
      (Script.size [width, height, enlarge, extend, anchor, x, y]) := by
  obtain ⟨filledWidth, filledHeight, filledEnlarge, filledExtend⟩ := filled
  unfold Script.size
  rw [if_neg (by simp), slot_of_ne rfl filledWidth, slot_of_ne rfl filledHeight,
    slot_of_ne rfl filledEnlarge, slot_of_ne rfl filledExtend, append_assoc, append_assoc]
  refine .append ?_ (.append ?_ (.append ?_ (.extend extend anchor x y)))
  · exact .pixels (fun _ _ _ => rfl) [width]
  · exact .pixels (fun _ _ _ => rfl) [height]
  · exact .switch (fun _ _ _ => rfl) [enlarge]

theorem resize {type width height enlarge extend anchor x y : String} (filledType : type ≠ "")
    (filled : width ≠ "" ∧ height ≠ "" ∧ enlarge ≠ "" ∧ extend ≠ "") :
    Determines [.resizingType, .width, .height, .enlarge, .extension]
      (Script.resize [type, width, height, enlarge, extend, anchor, x, y]) := by
  unfold Script.resize
  simp only
  rw [if_neg (by simp), slot_of_ne rfl filledType]
  exact .append (.single fun _ => .store fun _ _ _ _ => rfl) (.size filled)

end Determines

end Script

namespace Setting

/-- How many arguments a setting has in the forms that say everything about its fields. There is no
such form for a watermark, which can only be switched to a tiling, and for the formats to be passed
on, which can only become more. -/
def wholeLengths : Setting → List Nat
  | resize => [8]
  | size => [7]
  | gravity => [3]
  | extend => [4]
  | crop => [5]
  | padding => [4]
  | trim => [4]
  | background => [1, 3]
  | watermark => []
  | skipProcessing => []
  | _ => [1]

/-- The arguments fill a form of the setting that says everything about its fields. -/
structure IsWhole (setting : Setting) (arguments : List String) : Prop where
  length_mem : arguments.length ∈ setting.wholeLengths
  filled : "" ∉ arguments

open Script in
/-- A setting with whole arguments determines all of its fields. -/
theorem determines_script (now : Int) {setting : Setting} {arguments : List String}
    (whole : setting.IsWhole arguments) :
    (setting.script now arguments).Determines setting.fields := by
  obtain ⟨count, filled⟩ := whole
  cases setting with
  | resize =>
      match arguments, List.mem_singleton.1 count with
      | [_, _, _, _, _, _, _, _], _ =>
          simp only [List.mem_cons, not_or, ← ne_eq, ne_comm] at filled
          exact .resize filled.1 ⟨filled.2.1, filled.2.2.1, filled.2.2.2.1, filled.2.2.2.2.1⟩
  | size =>
      match arguments, List.mem_singleton.1 count with
      | [_, _, _, _, _, _, _], _ =>
          simp only [List.mem_cons, not_or, ← ne_eq, ne_comm] at filled
          exact .size ⟨filled.1, filled.2.1, filled.2.2.1, filled.2.2.2.1⟩
  | resizingType => exact .single fun _ => .store fun _ _ _ _ => rfl
  | width => exact .pixels (fun _ _ _ => rfl) arguments
  | height => exact .pixels (fun _ _ _ => rfl) arguments
  | minWidth => exact .pixels (fun _ _ _ => rfl) arguments
  | minHeight => exact .pixels (fun _ _ _ => rfl) arguments
  | dpr => exact .single fun _ => .store fun _ _ _ _ => rfl
  | enlarge => exact .switch (fun _ _ _ => rfl) arguments
  | extend =>
      match arguments, List.mem_singleton.1 count with
      | [_, _, _, _], _ => exact .extend _ _ _ _
  | gravity =>
      match arguments, List.mem_singleton.1 count with
      | [anchor, x, y], _ =>
          refine .store fun placement read first second => ?_
          exact (Placement.isWhole_of_ofTokens read).place_eq_place first.gravity second.gravity
  | crop =>
      match arguments, List.mem_singleton.1 count with
      | [_, _, _, _, _], _ => exact .crop _ _ _ _ _
  | trim =>
      match arguments, List.mem_singleton.1 count with
      | [_, _, _, _], _ =>
          simp only [List.mem_cons, not_or, ← ne_eq, ne_comm] at filled
          exact .trim ⟨filled.2.1, filled.2.2.1, filled.2.2.2.1⟩
  | padding =>
      match arguments, List.mem_singleton.1 count with
      | [_, _, _, _], _ =>
          simp only [List.mem_cons, not_or, ← ne_eq, ne_comm] at filled
          exact .padding ⟨filled.1, filled.2.1, filled.2.2.1, filled.2.2.2.1⟩
  | autoRotate => exact .switch (fun _ _ _ => rfl) arguments
  | rotate => exact .single fun _ => .store fun _ _ _ _ => rfl
  | background =>
      simp only [wholeLengths, List.mem_cons, List.not_mem_nil, or_false] at count
      rcases count with count | count
      · match arguments, count with
        | [hex], _ => exact .background_hex fun empty => filled (by simp [empty])
      · match arguments, count with
        | [_, _, _], _ => exact .background_channels _ _ _
  | blur => exact .amount (fun _ _ _ => rfl) arguments
  | sharpen => exact .amount (fun _ _ _ => rfl) arguments
  | watermark => cases count
  | stripMetadata => exact .switch (fun _ _ _ => rfl) arguments
  | stripColorProfile => exact .switch (fun _ _ _ => rfl) arguments
  | quality => exact .single fun _ => .store fun _ _ _ _ => rfl
  | maxBytes => exact .single fun _ => .store fun _ _ _ _ => rfl
  | format => exact .single fun _ => .store fun _ _ _ _ => rfl
  | skipProcessing => cases count
  | cacheBuster => exact .single fun _ => .write fun _ _ => rfl
  | expires => exact fun _ field mem => absurd mem List.not_mem_nil
  | filename => exact .single fun _ => .write fun _ _ => rfl

end Setting

namespace Presets

/-- A directive with whole arguments that goes through on some options goes through on all. The
fields of its setting then hold the same whatever they held before, and the others hold what they
held before. -/
theorem value_run_of_isWhole (presets : Presets) (now : Int) {directive : Directive}
    {setting : Setting} (known : Keyword.ofName? directive.name = some (.setting setting))
    (whole : setting.IsWhole directive.arguments) {first : Options}
    (accepted : (presets.run now [directive] first).rejection? = none) (second : Options) :
    (presets.run now [directive] second).rejection? = none ∧
      (∀ field ∈ setting.fields, (presets.run now [directive] first).options.value field =
        (presets.run now [directive] second).options.value field) ∧
      ∀ field ∉ setting.fields,
        (presets.run now [directive] second).options.value field = second.value field := by
  rw [run_setting_singleton known] at accepted
  simp only [run_setting_singleton known]
  refine ⟨accepted, ?_, ?_⟩
  · intro field mem
    exact setting.determines_script now whole accepted field mem first second
  · intro field other
    refine Edit.value_applyAll_of_ne (fun edit mem same => other ?_) second
    rw [← same]
    exact setting.field_mem_fields now directive.arguments accepted edit mem

/-- A size with everything that goes with it. -/
def wholeResize : Directive :=
  { name := "rs", arguments := ["fill", "300", "200", "1", "0", "soea", "4", "0.5"] }

/-- A size by hints, and an extension to the south. -/
def extended : Options :=
  { Options.start true true true [] with
    width := 640
    height := 480
    extension := { enabled := true, gravity := { anchor := .south, x := 7.0, y := 3.0 } } }

/-- Nothing is left of the extension and the size. -/
theorem value_run_wholeResize :
    Keyword.ofName? wholeResize.name = some (.setting .resize) ∧
      Setting.resize.IsWhole wholeResize.arguments ∧
      (empty.run 0 [wholeResize] (Options.start true true true [])).rejection? = none ∧
      (empty.run 0 [wholeResize] extended).rejection? = none ∧
      ∀ field ∈ [.resizingType, .width, .height, .enlarge, .extension],
        (empty.run 0 [wholeResize] (Options.start true true true [])).options.value field =
          (empty.run 0 [wholeResize] extended).options.value field := by
  have known : Keyword.ofName? wholeResize.name = some (.setting .resize) := by decide
  have whole : Setting.resize.IsWhole wholeResize.arguments := ⟨by decide, by decide⟩
  have accepted :
      (empty.run 0 [wholeResize] (Options.start true true true [])).rejection? = none := by
    rw [run_singleton (by decide)]
    decide +kernel
  obtain ⟨accepted', same, -⟩ := value_run_of_isWhole empty 0 known whole accepted extended
  exact ⟨known, whole, accepted, accepted', same⟩

end Presets

end ImageRequest

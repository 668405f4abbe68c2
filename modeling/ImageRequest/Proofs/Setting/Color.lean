import ImageRequest.Proofs.Color
import ImageRequest.Proofs.Presets.Run
import ImageRequest.Proofs.Script

/-!
# Colors given to directives

A background is given as a color in hexadecimal digits or by its three channels in decimal digits,
in two branches of its script that write different edits. They come to the same (`run_of_ofHex?`):
both leave the color and ask for a flattened image, and neither depends on the background before. A
trim stores the same color for the same digits.
-/

namespace ImageRequest

/-- Decimal numerals spell the channels of a color. -/
structure Color.SpelledBy (color : Color) (red green blue : String) : Prop where
  red : Numeral.natUpTo? 255 red = some color.red.toNat
  green : Numeral.natUpTo? 255 green = some color.green.toNat
  blue : Numeral.natUpTo? 255 blue = some color.blue.toNat

theorem Token.color_of_ofHex? {field text : String} {color : Color}
    (read : Color.ofHex? text = some color) : Token.color field text = .ok color := by
  rw [Token.color, read, Token.require]

theorem Token.channel_of_natUpTo? {field token : String} {byte : UInt8}
    (spelled : Numeral.natUpTo? 255 token = some byte.toNat) :
    Token.channel field token = .ok byte := by
  rw [Token.channel, spelled, Option.map_some, UInt8.ofNat_toNat, Token.require]

theorem Color.ne_empty_of_ofHex? {text : String} {color : Color}
    (read : Color.ofHex? text = some color) : text ≠ "" := by
  rintro rfl
  cases read

namespace Script

variable {text : String} {color : Color}

/-- A background in hexadecimal digits is written as a whole. -/
theorem run_background_hex (read : Color.ofHex? text = some color) (options : Options) :
    (background [text]).run options =
      { options := { options with background := color, flatten := true }
        warnings := []
        rejection? := none } := by
  rw [background_of_hex (Color.ne_empty_of_ofHex? read), Token.color_of_ofHex? read]
  rfl

/-- A background by its channels is written channel by channel. -/
theorem run_background_channels {red green blue : String} (spelled : color.SpelledBy red green blue)
    (options : Options) :
    (background [red, green, blue]).run options =
      { options := { options with background := color, flatten := true }
        warnings := []
        rejection? := none } := by
  rw [background_of_three, channel, channel, channel, Token.channel_of_natUpTo? spelled.red,
    Token.channel_of_natUpTo? spelled.green, Token.channel_of_natUpTo? spelled.blue]
  rfl

theorem rejection?_slot_flag (arguments : List String) (index : Nat) (edit : Bool → Edit) :
    (slot arguments index (flag edit)).rejection? = none := by
  unfold slot
  split <;> rfl

/-- A truth value that does not concern the color of a trim leaves it as it is. -/
theorem color_applyAll_slot_flag {edit : Bool → Trim.Edit}
    (keeps : ∀ value trim, ((edit value).apply trim).color = trim.color) (arguments : List String)
    (index : Nat) (options : Options) :
    (Edit.applyAll (slot arguments index (flag fun value => .trim (edit value))).edits
      options).trim.color = options.trim.color := by
  unfold slot
  split
  · rfl
  · rfl
  · exact keeps _ _

/-- The color of a trim is written behind its threshold and before its two symmetries. -/
theorem trim_of_hex (read : Color.ofHex? text = some color) {threshold : String} {value : Float}
    (given : Token.nonNegativeFloat "trim threshold" threshold = .ok value) {rest : List String}
    (few : rest.length ≤ 2) :
    trim (threshold :: text :: rest) =
      write (.trim (.threshold value)) ++ write (.trim (.color color)) ++
        slot (text :: rest) 1 (flag fun value => .trim (.equalHorizontally value)) ++
        slot (text :: rest) 2 (flag fun value => .trim (.equalVertically value)) := by
  have few' : ¬ 3 < (text :: rest).length := by
    rw [List.length_cons]
    omega
  rw [trim, if_neg few', given, slot_of_ne rfl (Color.ne_empty_of_ofHex? read),
    Token.color_of_ofHex? read, store, store]

/-- The color of a trim is stored, and nothing behind it changes it or is rejected. -/
theorem run_trim_hex (read : Color.ofHex? text = some color) {threshold : String} {value : Float}
    (given : Token.nonNegativeFloat "trim threshold" threshold = .ok value) {rest : List String}
    (few : rest.length ≤ 2) (options : Options) :
    ((trim (threshold :: text :: rest)).run options).rejection? = none ∧
      ((trim (threshold :: text :: rest)).run options).options.trim.color = color := by
  have first : (write (.trim (.threshold value)) ++ write (.trim (.color color)) ++
      slot (text :: rest) 1 (flag fun value => .trim (.equalHorizontally value))).rejection? =
        none :=
    rejection?_append_eq_none.2 ⟨rfl, rejection?_slot_flag _ 1 _⟩
  rw [trim_of_hex read given few]
  refine ⟨rejection?_append_eq_none.2 ⟨first, rejection?_slot_flag _ 2 _⟩, ?_⟩
  rw [run, edits_append first, edits_append (by rfl), Edit.applyAll_append, Edit.applyAll_append,
    color_applyAll_slot_flag fun _ _ => rfl, color_applyAll_slot_flag fun _ _ => rfl]
  rfl

end Script

namespace Presets

open Codec.Hex (IsDigit value)

/-- The texts that are read as colors consist of three or of six hexadecimal digits. Small and
capital letters are the same, three digits stand for six, six give the channels by their values, and
so every color is read from the digits that write it. A background that is given by such a text, or
by any numerals for the channels of its color, leaves the same options, and a trim with that text
stores this color. -/
theorem run_of_ofHex? :
    (∀ text : String, (Color.ofHex? text).isSome ↔
      (text.length = 3 ∨ text.length = 6) ∧ ∀ c ∈ text.toList, IsDigit c) ∧
    (∀ text other : String, text.toLower = other.toLower →
      Color.ofHex? text = Color.ofHex? other) ∧
    (∀ r g b : Char, Color.ofHex? (String.ofList [r, g, b]) =
      Color.ofHex? (String.ofList [r, r, g, g, b, b])) ∧
    (∀ r₁ r₀ g₁ g₀ b₁ b₀ color,
      Color.ofHex? (String.ofList [r₁, r₀, g₁, g₀, b₁, b₀]) = some color →
        color.red.toNat = 16 * value r₁ + value r₀ ∧
        color.green.toNat = 16 * value g₁ + value g₀ ∧
        color.blue.toNat = 16 * value b₁ + value b₀) ∧
    (∀ (color : Color) (text : String), text.toLower = color.hex.toLower →
      Color.ofHex? text = some color) ∧
    (∀ (presets : Presets) (now : Int) (options : Options) (text : String) (color : Color),
      Color.ofHex? text = some color →
      (∀ (byText byChannels : Directive) (red green blue : String),
        Keyword.ofName? byText.name = some (.setting .background) →
        Keyword.ofName? byChannels.name = some (.setting .background) →
        byText.arguments = [text] → byChannels.arguments = [red, green, blue] →
        color.SpelledBy red green blue →
          (presets.run now [byText] options).rejection? = none ∧
          (presets.run now [byText] options).options.background = color ∧
          presets.run now [byText] options = presets.run now [byChannels] options) ∧
      (∀ (trim : Directive) (threshold : String) (amount : Float) (rest : List String),
        Keyword.ofName? trim.name = some (.setting .trim) →
        trim.arguments = threshold :: text :: rest →
        Token.nonNegativeFloat "trim threshold" threshold = .ok amount → rest.length ≤ 2 →
          (presets.run now [trim] options).rejection? = none ∧
          (presets.run now [trim] options).options.trim.color = color)) := by
  refine ⟨Color.isSome_ofHex?_iff, fun _ _ => Color.ofHex?_congr, Color.ofHex?_doubled, ?_, ?_, ?_⟩
  · intro r₁ r₀ g₁ g₀ b₁ b₀ color read
    obtain ⟨red, green, blue⟩ := Color.hasDigits_of_ofHex? read
    exact ⟨red, green, blue⟩
  · intro color text same
    rw [Color.ofHex?_congr same, Color.ofHex?_hex]
  · intro presets now options text color read
    constructor
    · intro byText byChannels red green blue known known' hex channels spelled
      have text' := Script.run_background_hex read options
      have channels' := Script.run_background_channels spelled options
      rw [run_setting_singleton known, run_setting_singleton known', hex, channels]
      change ((Script.background [text]).run options).rejection? = none ∧
        ((Script.background [text]).run options).options.background = color ∧
        (Script.background [text]).run options = (Script.background [red, green, blue]).run options
      rw [text', channels']
      exact ⟨rfl, rfl, rfl⟩
    · intro trim threshold amount rest known arguments given few
      rw [run_setting_singleton known, arguments]
      exact Script.run_trim_hex read given few options

/-- A color with a channel that is zero, and one that is full. -/
def azure : Color := ⟨0, 170, 255⟩

/-- The same color in three digits, in six digits of either case, and by its channels. -/
theorem run_of_ofHex?_azure :
    let byText : Directive := { name := "bg", arguments := ["0aF"] }
    let byChannels : Directive := { name := "background", arguments := ["0", "+170", "0255"] }
    let trim : Directive := { name := "t", arguments := ["10", "0aF", "1"] }
    let start := Options.start true true true []
    Color.ofHex? "0aF" = some azure ∧ "00AaFf".toLower = azure.hex.toLower ∧
      Color.ofHex? "00AaFf" = some azure ∧ azure.SpelledBy "0" "+170" "0255" ∧
      empty.run 0 [byText] start = empty.run 0 [byChannels] start ∧
      (empty.run 0 [trim] start).rejection? = none ∧
      (empty.run 0 [trim] start).options.trim.color = azure := by
  intro byText byChannels trim start
  obtain ⟨-, -, -, -, written, runs⟩ := run_of_ofHex?
  have read : Color.ofHex? "0aF" = some azure := by decide
  have letters : "00AaFf".toLower = azure.hex.toLower := by
    rw [← String.toList_inj, Color.toList_toLower, Color.toList_toLower]
    decide
  have spelled : azure.SpelledBy "0" "+170" "0255" := ⟨by decide, by decide, by decide⟩
  obtain ⟨backgrounds, trims⟩ := runs empty 0 start "0aF" azure read
  obtain ⟨-, -, same⟩ :=
    backgrounds byText byChannels "0" "+170" "0255" (by decide) (by decide) rfl rfl spelled
  have amount : ∃ amount, Token.nonNegativeFloat "trim threshold" "10" = .ok amount := ⟨_, rfl⟩
  obtain ⟨amount, given⟩ := amount
  obtain ⟨accepted, color⟩ := trims trim "10" amount ["1"] (by decide) rfl given (by decide)
  exact ⟨read, letters, written azure "00AaFf" letters, spelled, same, accepted, color⟩

end Presets

end ImageRequest

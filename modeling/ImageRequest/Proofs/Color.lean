import ImageRequest.Color
import Mathlib.Data.List.Basic

/-!
# Colors as written

A text is read as a color exactly if it consists of three or of six hexadecimal digits. What it is
read as depends on the values of the digits alone, which are the same in small and in capital
letters; three digits stand for the six in which each of them is written twice. A channel has the
value of its two digits, so that the six digits that write a color are read as this color again.
-/

namespace ImageRequest

namespace Codec.Hex

/-- The digits by their values, in small letters. -/
def digits : List Char :=
  "0123456789abcdef".toList

/-- The characters that are hexadecimal digits. -/
def IsDigit (c : Char) : Prop :=
  c ∈ "0123456789abcdefABCDEF".toList

instance (c : Char) : Decidable (IsDigit c) :=
  inferInstanceAs (Decidable (c ∈ "0123456789abcdefABCDEF".toList))

/-- The value of a digit, whichever case it is written in. -/
def value (c : Char) : Nat :=
  digits.idxOf c.toLower

/-- What holds of the ASCII characters and of all those behind them holds of every character. -/
theorem forall_char {P : Char → Prop} (ascii : ∀ n < 128, P (Char.ofNat n))
    (others : ∀ c : Char, 128 ≤ c.toNat → P c) (c : Char) : P c := by
  by_cases small : c.toNat < 128
  · have written := ascii c.toNat small
    rwa [Char.ofNat_toNat] at written
  · exact others c (Nat.le_of_not_lt small)

theorem toLower_of_le {c : Char} (large : 128 ≤ c.toNat) : c.toLower = c := by
  have notCapital : ¬ (c.val ≥ 'A'.val ∧ c.val ≤ 'Z'.val) := by
    rintro ⟨-, small⟩
    have bound : c.toNat ≤ 'Z'.toNat := UInt32.le_iff_toNat_le.1 small
    have last : 'Z'.toNat = 90 := rfl
    omega
  exact dif_neg notCapital

theorem not_mem_of_le {c : Char} (large : 128 ≤ c.toNat) {text : List Char}
    (ascii : text.all (·.toNat < 128)) : c ∉ text :=
  fun mem => absurd (of_decide_eq_true (List.all_eq_true.1 ascii c mem)) (Nat.not_lt_of_le large)

theorem isDigit_iff (c : Char) : IsDigit c ↔ c.toLower ∈ digits := by
  refine forall_char (P := fun c => IsDigit c ↔ c.toLower ∈ digits) (by decide +kernel) ?_ c
  intro c large
  rw [toLower_of_le large]
  exact iff_of_false (not_mem_of_le large (by decide)) (not_mem_of_le large (by decide))

theorem digit?_eq (c : Char) : digit? c = if IsDigit c then some (value c) else none := by
  refine forall_char (P := fun c => digit? c = if IsDigit c then some (value c) else none)
    (by decide +kernel) ?_ c
  intro c large
  have none : ¬ IsDigit c := not_mem_of_le large (by decide)
  rw [if_neg none, digit?]
  simp only [Bool.and_eq_true, decide_eq_true_eq]
  rw [if_neg (by omega), if_neg (by omega), if_neg (by omega)]

theorem value_lt {c : Char} (digit : IsDigit c) : value c < 16 :=
  List.idxOf_lt_length_iff.2 ((isDigit_iff c).1 digit)

/-- A text is taken apart into the values of its digits, if it has no other characters. -/
theorem mapM_digit? (text : List Char) :
    text.mapM digit? = if text.all (IsDigit ·) then some (text.map value) else none := by
  induction text with
  | nil => rfl
  | cons c text ih =>
      rw [List.mapM_cons, ih, digit?_eq, List.all_cons]
      by_cases first : IsDigit c
      · rw [if_pos first, decide_eq_true first, Bool.true_and]
        split <;> rfl
      · rw [if_neg first, decide_eq_false first, Bool.false_and]
        rfl

/-- Two digits that write a byte. -/
def pair (byte : UInt8) : List Char :=
  [Nat.digitChar (byte.toNat / 16), Nat.digitChar (byte.toNat % 16)]

theorem digitChar_isDigit {n : Nat} (small : n < 16) :
    IsDigit (Nat.digitChar n) ∧ value (Nat.digitChar n) = n := by
  have each : ∀ n < 16, IsDigit (Nat.digitChar n) ∧ value (Nat.digitChar n) = n := by decide
  exact each n small

end Codec.Hex

open Codec.Hex (IsDigit value)

namespace Color

/-- What a text is read as depends on the values of its digits. -/
theorem ofHex?_eq (text : String) :
    ofHex? text =
      if text.toList.all (IsDigit ·) then ofDigits? (text.toList.map value) else none := by
  rw [ofHex?, Codec.Hex.mapM_digit?]
  split <;> rfl

theorem isSome_ofDigits?_iff (digits : List Nat) :
    (ofDigits? digits).isSome ↔ digits.length = 3 ∨ digits.length = 6 := by
  unfold ofDigits?
  split
  · simp
  · simp
  · rename_i notThree notSix
    refine iff_of_false (by simp) ?_
    rintro (three | six)
    · obtain ⟨r, g, b, rfl⟩ := List.length_eq_three.1 three
      exact notThree r g b rfl
    · match digits, six with
      | [r₁, r₀, g₁, g₀, b₁, b₀], _ => exact notSix r₁ r₀ g₁ g₀ b₁ b₀ rfl

/-- The texts that are read as colors have three or six digits, and nothing else. -/
theorem isSome_ofHex?_iff (text : String) :
    (ofHex? text).isSome ↔
      (text.length = 3 ∨ text.length = 6) ∧ ∀ c ∈ text.toList, IsDigit c := by
  rw [ofHex?_eq]
  split
  · rename_i digits
    rw [isSome_ofDigits?_iff, List.length_map, String.length_toList,
      and_iff_left (by simpa using digits)]
  · rename_i others
    exact iff_of_false (by simp) fun written => others (by simpa using written.2)

theorem toList_toLower (text : String) : text.toLower.toList = text.toList.map Char.toLower :=
  String.toList_map

/-- The letters of a text may be small or capital ones. -/
theorem ofHex?_congr {text other : String} (same : text.toLower = other.toLower) :
    ofHex? text = ofHex? other := by
  have letters : text.toList.map Char.toLower = other.toList.map Char.toLower := by
    rw [← toList_toLower, same, toList_toLower]
  have digits : ∀ text : String, text.toList.all (IsDigit ·) =
      (text.toList.map Char.toLower).all (· ∈ Codec.Hex.digits) := by
    intro text
    simp only [Codec.Hex.isDigit_iff, List.all_map, Function.comp_def]
  have values : ∀ text : String, text.toList.map value =
      (text.toList.map Char.toLower).map Codec.Hex.digits.idxOf := by
    intro text
    rw [List.map_map]
    rfl
  simp only [ofHex?_eq, digits, values, letters]

/-- Three digits stand for the six in which each of them is written twice. -/
theorem ofHex?_doubled (r g b : Char) :
    ofHex? (String.ofList [r, g, b]) = ofHex? (String.ofList [r, r, g, g, b, b]) := by
  simp [ofHex?_eq, ofDigits?]

/-- A channel that is written by two digits has their value. -/
theorem toNat_channel {high low : Char} (isHigh : IsDigit high) (isLow : IsDigit low) :
    (channel (value high) (value low)).toNat = 16 * value high + value low := by
  have high' := Codec.Hex.value_lt isHigh
  have low' := Codec.Hex.value_lt isLow
  rw [channel, UInt8.toNat_ofNat_of_lt']
  change _ < 256
  omega

/-- The channels of a color are the values of three pairs of digits. -/
structure HasDigits (color : Color) (r₁ r₀ g₁ g₀ b₁ b₀ : Char) : Prop where
  red : color.red.toNat = 16 * value r₁ + value r₀
  green : color.green.toNat = 16 * value g₁ + value g₀
  blue : color.blue.toNat = 16 * value b₁ + value b₀

theorem hasDigits_of_ofHex? {r₁ r₀ g₁ g₀ b₁ b₀ : Char} {color : Color}
    (read : ofHex? (String.ofList [r₁, r₀, g₁, g₀, b₁, b₀]) = some color) :
    color.HasDigits r₁ r₀ g₁ g₀ b₁ b₀ := by
  rw [ofHex?_eq, String.toList_ofList] at read
  split at read
  · rename_i digits
    simp only [List.all_cons, Bool.and_eq_true, decide_eq_true_eq] at digits
    obtain ⟨r₁', r₀', g₁', g₀', b₁', b₀', -⟩ := digits
    obtain rfl := Option.some.inj read
    exact ⟨toNat_channel r₁' r₀', toNat_channel g₁' g₀', toNat_channel b₁' b₀'⟩
  · cases read

/-- The six digits that write a color, in small letters. -/
def hex (color : Color) : String :=
  String.ofList
    (Codec.Hex.pair color.red ++ Codec.Hex.pair color.green ++ Codec.Hex.pair color.blue)

theorem channel_digits (byte : UInt8) : channel (byte.toNat / 16) (byte.toNat % 16) = byte := by
  rw [channel, Nat.div_add_mod, UInt8.ofNat_toNat]

theorem ofHex?_hex (color : Color) : ofHex? color.hex = some color := by
  obtain ⟨red, green, blue⟩ := color
  have small : ∀ byte : UInt8, byte.toNat / 16 < 16 := by
    intro byte
    have := byte.toNat_lt
    omega
  have small' : ∀ byte : UInt8, byte.toNat % 16 < 16 := fun byte => Nat.mod_lt _ (by decide)
  have high := fun byte => Codec.Hex.digitChar_isDigit (small byte)
  have low := fun byte => Codec.Hex.digitChar_isDigit (small' byte)
  simp [ofHex?_eq, hex, Codec.Hex.pair, high, low, ofDigits?, channel_digits]

end Color

end ImageRequest

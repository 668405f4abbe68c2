import ImageRequest.Proofs.Numeral.Integer
import ImageRequest.Proofs.Presets.Run
import ImageRequest.Proofs.Token
import Mathlib.Tactic.NormNum

/-!
# Integers as tokens

A token is read as an integer exactly if it is a numeral of an integer in the range of its reader,
and as no other integer than the one it stands for. What is out of range is rejected and not
wrapped, and the rejection names the token as it was given. The readers differ only in their field,
in whether a minus sign may be written, and in which integers they take, so that each of them is an
instance of `readsExactly_require`.
-/

namespace ImageRequest.Token

open Numeral (Digits Natural Integer)

variable {α : Type}

/-- A reader of a field takes the tokens that write a legal value, as this value. It rejects every
other token, and it takes every legal value from its rendering. -/
structure ReadsExactly (read : String → Except Rejection α) (field : String)
    (Writes : List Char → α → Prop) (Legal : α → Prop) (render : α → String) : Prop where
  accepted {token : String} {value : α} :
    read token = .ok value ↔ Writes token.toList value ∧ Legal value
  rejected {token : String} {rejection : Rejection} :
    read token = .error rejection ↔
      rejection = .invalidValue field token ∧ ∀ value, Legal value → ¬ Writes token.toList value
  rendered {value : α} (legal : Legal value) : read (render value) = .ok value

theorem readsExactly_require {field : String} {read? : String → Option α}
    {Writes : List Char → α → Prop} {Legal : α → Prop} {render : α → String}
    (exact : ∀ token value, read? token = some value ↔ Writes token.toList value ∧ Legal value)
    (rendered : ∀ value, Writes (render value).toList value) :
    ReadsExactly (fun token => require field token (read? token)) field Writes Legal render where
  accepted := require_eq_ok.trans (exact _ _)
  rejected {token rejection} := by
    have unread : read? token = none ↔ ∀ value, Legal value → ¬ Writes token.toList value := by
      rw [Option.eq_none_iff_forall_ne_some]
      exact forall_congr' fun value => by rw [ne_eq, exact, and_comm, not_and]
    rw [require_eq_error_iff, unread]
  rendered {value} legal := require_eq_ok.2 ((exact _ value).2 ⟨rendered value, legal⟩)

/-! ### The readers -/

theorem readsExactly_natUpTo? (field : String) (bound : Nat) :
    ReadsExactly (fun token => require field token (Numeral.natUpTo? bound token)) field Natural
      (· ≤ bound) toString :=
  readsExactly_require (fun _ _ => Numeral.natUpTo?_eq_some_iff) Numeral.natural_toString

theorem readsExactly_dimension (field : String) :
    ReadsExactly (dimension field) field Natural (· ≤ 2 ^ 32 - 1) toString := by
  have greatest : 2 ^ 32 - 1 = 4294967295 := by norm_num
  rw [greatest]
  exact readsExactly_natUpTo? field 4294967295

theorem readsExactly_byteCount (field : String) :
    ReadsExactly (byteCount field) field Natural (· ≤ 2 ^ 64 - 1) toString := by
  have greatest : 2 ^ 64 - 1 = 18446744073709551615 := by norm_num
  rw [greatest]
  exact readsExactly_natUpTo? field 18446744073709551615

/-- A channel is read as the byte with the value of the numeral. -/
theorem map_toNat_channel (field token : String) :
    (channel field token).map UInt8.toNat = require field token (Numeral.natUpTo? 255 token) := by
  rw [channel]
  cases read : Numeral.natUpTo? 255 token with
  | none => rfl
  | some n =>
      have small : n < 2 ^ 8 := Nat.lt_succ_of_le (Numeral.natUpTo?_le read)
      exact congrArg Except.ok (UInt8.toNat_ofNat_of_lt' small)

theorem readsExactly_channel (field : String) :
    ReadsExactly (fun token => (channel field token).map UInt8.toNat) field Natural (· ≤ 255)
      toString := by
  simp only [map_toNat_channel]
  exact readsExactly_natUpTo? field 255

theorem readsExactly_integer (field : String) :
    ReadsExactly (integer field) field Integer (fun z => -2 ^ 63 ≤ z ∧ z ≤ 2 ^ 63 - 1) toString := by
  refine readsExactly_require (fun token z => ?_) Numeral.integer_toString
  rw [Numeral.intBetween?_eq_some_iff]
  norm_num

theorem readsExactly_rotation :
    ReadsExactly rotation "rotation angle" Integer
      (fun z => -2 ^ 31 ≤ z ∧ z ≤ 2 ^ 31 - 1 ∧ 90 ∣ z) toString := by
  refine readsExactly_require (fun token z => ?_) Numeral.integer_toString
  rw [Option.filter_eq_some_iff, Numeral.intBetween?_eq_some_iff, decide_eq_true_iff,
    ← Int.dvd_iff_emod_eq_zero]
  norm_num [and_assoc]

/-- What is stored from a token is the legal value that it writes. Without one nothing is stored. -/
theorem ReadsExactly.run_store {read : String → Except Rejection α} {field : String}
    {Writes : List Char → α → Prop} {Legal : α → Prop} {render : α → String}
    (exact : ReadsExactly read field Writes Legal render) (edit : α → Edit) (token : String)
    (options : Options) :
    (∀ value, Writes token.toList value → Legal value →
      (Script.store edit (read token)).run options =
        { options := (edit value).apply options, warnings := [], rejection? := none }) ∧
    ((∀ value, Legal value → ¬ Writes token.toList value) →
      (Script.store edit (read token)).run options =
        { options, warnings := [], rejection? := some (.invalidValue field token) }) := by
  constructor
  · intro value written legal
    rw [exact.accepted.2 ⟨written, legal⟩]
    rfl
  · intro unwritten
    rw [exact.rejected.2 ⟨rfl, unwritten⟩]
    rfl

/-- A row of digits is the rendering of its number, with any number of zeros in front. The readers
of integers take the numerals whose values are in their range, as these values, and reject all other
tokens; and a directive for the greatest size stores the number that its only argument writes, or is
rejected and stores nothing. -/
theorem readsExactly_numerals :
    (∀ (row : List Char) (n : Nat),
      Digits row n ↔ ∃ zeros, row = List.replicate zeros '0' ++ (toString n).toList) ∧
    (∀ field, ReadsExactly (dimension field) field Natural (· ≤ 2 ^ 32 - 1) toString) ∧
    (∀ field, ReadsExactly (fun token => (channel field token).map UInt8.toNat) field Natural
      (· ≤ 255) toString) ∧
    ReadsExactly quality "quality" Natural (· ≤ 100) toString ∧
    (∀ field, ReadsExactly (byteCount field) field Natural (· ≤ 2 ^ 64 - 1) toString) ∧
    (∀ field, ReadsExactly (integer field) field Integer
      (fun z => -2 ^ 63 ≤ z ∧ z ≤ 2 ^ 63 - 1) toString) ∧
    ReadsExactly rotation "rotation angle" Integer
      (fun z => -2 ^ 31 ≤ z ∧ z ≤ 2 ^ 31 - 1 ∧ 90 ∣ z) toString ∧
    ∀ (presets : Presets) (now : Int) (directive : Directive) (token : String) (options : Options),
      Keyword.ofName? directive.name = some (.setting .maxBytes) → directive.arguments = [token] →
        (∀ n, Natural token.toList n → n ≤ 2 ^ 64 - 1 →
          presets.run now [directive] options =
            { options := { options with maxBytes := n }, warnings := [], rejection? := none }) ∧
        ((∀ n, n ≤ 2 ^ 64 - 1 → ¬ Natural token.toList n) →
          presets.run now [directive] options =
            { options, warnings := [], rejection? := some (.invalidValue "max_bytes" token) }) := by
  refine ⟨fun _ _ => Numeral.digits_iff_padded, readsExactly_dimension, readsExactly_channel,
    readsExactly_natUpTo? "quality" 100, readsExactly_byteCount, readsExactly_integer,
    readsExactly_rotation, ?_⟩
  intro presets now directive token options known arguments
  rw [Presets.run_setting_singleton known, arguments]
  exact (readsExactly_byteCount "max_bytes").run_store .maxBytes token options

/-- The greatest values that fit, behind a sign and a zero, and the first ones that do not. -/
theorem readsExactly_numerals_limits :
    let largest : Directive := { name := "mb", arguments := ["+018446744073709551615"] }
    let tooLarge : Directive := { name := "max_bytes", arguments := ["18446744073709551616"] }
    let start := Options.start true true true []
    dimension "width" "+04294967295" = .ok 4294967295 ∧
      (channel "red" "0255").map UInt8.toNat = .ok 255 ∧
      integer "expires argument" "-09223372036854775808" = .ok (-9223372036854775808) ∧
      rotation "-0" = .ok 0 ∧
      Presets.empty.run 0 [largest] start =
        { options := { start with maxBytes := 18446744073709551615 }
          warnings := []
          rejection? := none } ∧
      Presets.empty.run 0 [tooLarge] start =
        { options := start
          warnings := []
          rejection? := some (.invalidValue "max_bytes" "18446744073709551616") } := by
  intro largest tooLarge start
  obtain ⟨rows, dimensions, channels, -, byteCounts, integers, rotations, runs⟩ :=
    readsExactly_numerals
  have width : Natural "+04294967295".toList 4294967295 := .plus ((rows _ _).2 ⟨1, by decide⟩)
  have red : Natural "0255".toList 255 := .unsigned ((rows _ _).2 ⟨1, by decide⟩)
  have time : Integer "-09223372036854775808".toList (-9223372036854775808) :=
    .minus ((rows _ 9223372036854775808).2 ⟨1, by decide⟩)
  have angle : Integer "-0".toList 0 := .minus ((rows _ 0).2 ⟨0, by decide⟩)
  have size : Natural "+018446744073709551615".toList 18446744073709551615 :=
    .plus ((rows _ _).2 ⟨1, by decide⟩)
  have beyond : byteCount "max_bytes" "18446744073709551616" =
      .error (.invalidValue "max_bytes" "18446744073709551616") := by decide
  obtain ⟨-, unwritten⟩ := (byteCounts "max_bytes").rejected.1 beyond
  exact ⟨(dimensions "width").accepted.2 ⟨width, by decide⟩,
    (channels "red").accepted.2 ⟨red, by decide⟩,
    (integers "expires argument").accepted.2 ⟨time, by decide⟩,
    rotations.accepted.2 ⟨angle, by decide⟩,
    (runs .empty 0 largest _ start (by decide) rfl).1 _ size (by decide),
    (runs .empty 0 tooLarge _ start (by decide) rfl).2 unwritten⟩

/-- A minus sign is refused where only natural numerals are read, even in front of a zero. -/
example : dimension "width" "-0" = .error (.invalidValue "width" "-0") := by decide

end ImageRequest.Token

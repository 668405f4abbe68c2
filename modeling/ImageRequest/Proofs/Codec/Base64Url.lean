import ImageRequest.Codec.Base64Url

/-!
# Base64 with spare bits that are zero

Each byte string is written in exactly one way: a text that is read, with the spare bits of its last
digit zero, is the text that writing the bytes gives (`decode_zero_eq_some_iff`). Texts whose length
leaves a single last digit are not read, nor are those with a character that is no digit.
-/

namespace ImageRequest.Codec.Base64Url

theorem digit_congr {m n : Nat} (same : m % 64 = n % 64) : digit m = digit n := by
  rw [digit, digit, same]

theorem value?_digit_mod (n : Nat) : value? (digit n) = some (n % 64) := by
  have within : n % 64 < 64 := Nat.mod_lt _ (by decide)
  rw [← value?_digit within]
  exact congrArg value? (digit_congr (Nat.mod_mod n 64).symm)

/-- Each value below 64 has its digit among the sixty-four. -/
theorem digit_eq_getElem {n : Nat} (within : n < digits.length) : digit n = digits[n] := by
  have small : n % 64 = n := Nat.mod_eq_of_lt within
  rw [digit, small, List.getD_eq_getElem?_getD, List.getElem?_eq_getElem within, Option.getD_some]

theorem digit_of_value? {c : Char} {n : Nat} (read : value? c = some n) : n < 64 ∧ digit n = c := by
  obtain ⟨within, same, -⟩ := List.idxOf?_eq_some_iff.1 read
  exact ⟨within, (digit_eq_getElem within).trans same⟩

theorem digit_mem (n : Nat) : digit n ∈ digits := by
  have within : n % 64 < digits.length := Nat.mod_lt _ (by decide)
  rw [digit_congr (Nat.mod_mod n 64).symm, digit_eq_getElem within]
  exact List.getElem_mem within

/-- Only digits are written. -/
theorem mem_digits_of_mem_encode {bytes : List UInt8} : ∀ c ∈ encode bytes, c ∈ digits := by
  fun_induction encode bytes with
  | case1 => exact nofun
  | case2 a n => simp [digit_mem]
  | case3 a b n => simp [digit_mem]
  | case4 a b c rest n ih =>
      simp only [List.forall_mem_cons, digit_mem, true_and]
      exact ih

/-- Four digits for three bytes, and for one or two bytes at the end one digit more than bytes. -/
theorem length_encode (bytes : List UInt8) : (encode bytes).length = (4 * bytes.length + 2) / 3 := by
  fun_induction encode bytes with
  | case1 => rfl
  | case2 a n => simp
  | case3 a b n => simp
  | case4 a b c rest n ih =>
      simp only [List.length_cons, ih]
      omega

theorem ofNat_eq {n : Nat} {byte : UInt8} (same : n % 256 = byte.toNat) : UInt8.ofNat n = byte := by
  apply UInt8.toNat_inj.1
  rw [UInt8.toNat_ofNat']
  exact same

/-- What is written is read back, whether spare bits are looked at or not. -/
theorem decode_encode (spare : SpareBits) (bytes : List UInt8) :
    decode spare (encode bytes) = some bytes := by
  fun_induction encode bytes with
  | case1 => rfl
  | case2 a n =>
      have low : n % 64 % 16 = 0 := by omega
      have high : (n / 64 % 64 * 64 + n % 64) / 16 % 256 = a.toNat := by
        have small := a.toNat_lt
        omega
      cases spare <;> simp [decode, value?_digit_mod, decodeValues, SpareBits.allows, low, ofNat_eq high]
  | case3 a b n =>
      have small := a.toNat_lt
      have small' := b.toNat_lt
      have low : n % 64 % 4 = 0 := by omega
      have whole : (n / 4096 % 64 * 4096 + n / 64 % 64 * 64 + n % 64) / 4 =
          a.toNat * 256 + b.toNat := by omega
      have first : (a.toNat * 256 + b.toNat) / 256 % 256 = a.toNat := by omega
      have second : (a.toNat * 256 + b.toNat) % 256 = b.toNat := by omega
      cases spare <;>
        simp [decode, value?_digit_mod, decodeValues, SpareBits.allows, low, whole, ofNat_eq first,
          ofNat_eq second]
  | case4 a b c rest n ih =>
      have small := a.toNat_lt
      have small' := b.toNat_lt
      have small'' := c.toNat_lt
      have whole : n / 262144 % 64 * 262144 + n / 4096 % 64 * 4096 + n / 64 % 64 * 64 + n % 64 = n := by
        omega
      have first : n / 65536 % 256 = a.toNat := by omega
      have second : n / 256 % 256 = b.toNat := by omega
      have third : n % 256 = c.toNat := by omega
      obtain ⟨values, given, read⟩ := Option.bind_eq_some_iff.1 ih
      simp [decode, value?_digit_mod, given, decodeValues, read, whole, ofNat_eq first,
        ofNat_eq second, ofNat_eq third]

theorem mapM_value?_eq_some {text : List Char} {values : List Nat}
    (read : text.mapM value? = some values) :
    values.map digit = text ∧ ∀ value ∈ values, value < 64 := by
  induction text generalizing values with
  | nil =>
      cases read
      exact ⟨rfl, nofun⟩
  | cons c text ih =>
      rw [List.mapM_cons] at read
      obtain ⟨value, first, read⟩ := Option.bind_eq_some_iff.1 read
      obtain ⟨others, rest, same⟩ := Option.bind_eq_some_iff.1 read
      cases same
      obtain ⟨small, written⟩ := digit_of_value? first
      obtain ⟨others, within⟩ := ih rest
      constructor
      · rw [List.map_cons, written, others]
      · exact List.forall_mem_cons.2 ⟨small, within⟩

/-- Values whose spare bits are zero are those of the digits of the bytes that they stand for. -/
theorem encode_of_decodeValues {values : List Nat} {bytes : List UInt8}
    (within : ∀ value ∈ values, value < 64) (read : decodeValues .zero values = some bytes) :
    encode bytes = values.map digit := by
  fun_induction decodeValues .zero values generalizing bytes with
  | case1 =>
      cases read
      rfl
  | case2 => cases read
  | case3 a b zero =>
      cases read
      simp only [List.forall_mem_cons] at within
      have spare : b % 16 = 0 := by simpa [SpareBits.allows] using zero
      have whole : (UInt8.ofNat ((a * 64 + b) / 16)).toNat * 16 = a * 64 + b := by
        rw [UInt8.toNat_ofNat']
        omega
      have first : digit ((a * 64 + b) / 64) = digit a := digit_congr (by omega)
      have second : digit (a * 64 + b) = digit b := digit_congr (by omega)
      simp only [encode, whole, first, second, List.map]
  | case4 => cases read
  | case5 a b c zero =>
      rename_i n
      cases read
      simp only [List.forall_mem_cons] at within
      have spare : c % 4 = 0 := by simpa [SpareBits.allows] using zero
      have given : n = (a * 4096 + b * 64 + c) / 4 := rfl
      have whole : ((UInt8.ofNat (n / 256)).toNat * 256 + (UInt8.ofNat n).toNat) * 4 =
          a * 4096 + b * 64 + c := by
        rw [UInt8.toNat_ofNat', UInt8.toNat_ofNat']
        omega
      have first : digit ((a * 4096 + b * 64 + c) / 4096) = digit a := digit_congr (by omega)
      have second : digit ((a * 4096 + b * 64 + c) / 64) = digit b := digit_congr (by omega)
      have third : digit (a * 4096 + b * 64 + c) = digit c := digit_congr (by omega)
      simp only [encode, whole, first, second, third, List.map]
  | case6 => cases read
  | case7 a b c d rest n =>
      rename_i ih
      obtain ⟨others, readRest, same⟩ := Option.map_eq_some_iff.1 read
      subst same
      simp only [List.forall_mem_cons] at within
      obtain ⟨small, small', small'', small''', within⟩ := within
      have given : n = a * 262144 + b * 4096 + c * 64 + d := rfl
      clear_value n
      have whole : (UInt8.ofNat (n / 65536)).toNat * 65536 +
          (UInt8.ofNat (n / 256)).toNat * 256 + (UInt8.ofNat n).toNat = n := by
        rw [UInt8.toNat_ofNat', UInt8.toNat_ofNat', UInt8.toNat_ofNat']
        omega
      have first : digit (n / 262144) = digit a := digit_congr (by omega)
      have second : digit (n / 4096) = digit b := digit_congr (by omega)
      have third : digit (n / 64) = digit c := digit_congr (by omega)
      have fourth : digit n = digit d := digit_congr (by omega)
      simp only [encode, whole, first, second, third, fourth, ih within readRest,
        List.map]

/-- A text is read as some bytes, with spare bits that are zero, exactly if it is what writing these
bytes gives. -/
theorem decode_zero_eq_some_iff {text : List Char} {bytes : List UInt8} :
    decode .zero text = some bytes ↔ text = encode bytes := by
  constructor
  · intro read
    obtain ⟨values, given, read⟩ := Option.bind_eq_some_iff.1 read
    obtain ⟨written, within⟩ := mapM_value?_eq_some given
    rw [encode_of_decodeValues within read, written]
  · rintro rfl
    exact decode_encode .zero bytes

theorem decodeValues_eq_some_nil_iff {spare : SpareBits} {values : List Nat} :
    decodeValues spare values = some [] ↔ values = [] := by
  fun_cases decodeValues spare values <;> simp_all

/-- No bytes are written by no digits, and by nothing else. -/
theorem decode_eq_some_nil_iff {spare : SpareBits} {text : List Char} :
    decode spare text = some [] ↔ text = [] := by
  constructor
  · intro read
    obtain ⟨values, given, nothing⟩ := Option.bind_eq_some_iff.1 read
    obtain ⟨written, -⟩ := mapM_value?_eq_some given
    rw [← written, decodeValues_eq_some_nil_iff.1 nothing, List.map_nil]
  · rintro rfl
    rfl

end ImageRequest.Codec.Base64Url

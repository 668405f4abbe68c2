import ImageRequest.Proofs.Codec.Base64Url

/-!
# Base64 with spare bits of any value

Where spare bits are not looked at, a byte string can be written in several ways, which differ in
the last digit and only in bits of it that stand for no byte. A text is read as some bytes exactly
if it is one of these ways to write them (`decode_any_eq_some_iff`).
-/

namespace ImageRequest.Codec.Base64Url

/-- How many values the spare bits of the last digit of a text can have. A text whose length leaves
no bits to spare has one. -/
def spareValues (length : Nat) : Nat :=
  match length % 4 with
  | 2 => 16
  | 3 => 4
  | _ => 1

/-- The texts are the same but for the spare bits of their last digits. -/
inductive SameButSpare : List Char → List Char → Prop
  | refl (text : List Char) : SameButSpare text text
  | last (front : List Char) {v w : Nat} : v < 64 → w < 64 →
      v / spareValues (front.length + 1) = w / spareValues (front.length + 1) →
      SameButSpare (front ++ [digit v]) (front ++ [digit w])

/-- The values with the spare bits of the last one set to zero. -/
def clearSpare : List Nat → List Nat
  | [a, b] => [a, b / 16 * 16]
  | [a, b, c] => [a, b, c / 4 * 4]
  | a :: b :: c :: d :: rest => a :: b :: c :: d :: clearSpare rest
  | values => values

theorem spareValues_add_four (length : Nat) : spareValues (length + 4) = spareValues length := by
  rw [spareValues, spareValues, Nat.add_mod_right]

/-- A full group in front leaves as many bits to spare as before. -/
theorem SameButSpare.append_left {group text other : List Char} (full : group.length = 4)
    (same : SameButSpare text other) : SameButSpare (group ++ text) (group ++ other) := by
  cases same with
  | refl => exact .refl _
  | last front small small' high =>
      rw [← List.append_assoc, ← List.append_assoc]
      refine .last _ small small' ?_
      have length : (group ++ front).length + 1 = front.length + 1 + 4 := by
        rw [List.length_append, full]
        omega
      rwa [length, spareValues_add_four]

/-! ### What is read -/

/-- Not to look at the spare bits is to read them as zeros. -/
theorem decodeValues_any (values : List Nat) :
    decodeValues .any values = decodeValues .zero (clearSpare values) := by
  fun_induction clearSpare values with
  | case1 a b =>
      have whole : (a * 64 + b / 16 * 16) / 16 = (a * 64 + b) / 16 := by omega
      simp [decodeValues, SpareBits.allows, whole]
  | case2 a b c =>
      have whole : (a * 4096 + b * 64 + c / 4 * 4) / 4 = (a * 4096 + b * 64 + c) / 4 := by omega
      simp [decodeValues, SpareBits.allows, whole]
  | case3 a b c d rest ih => rw [decodeValues, decodeValues, ih]
  | case4 values two three four =>
      rcases values with _ | ⟨a, _ | ⟨b, _ | ⟨c, _ | ⟨d, rest⟩⟩⟩⟩
      · rfl
      · rfl
      · exact absurd rfl (two a b)
      · exact absurd rfl (three a b c)
      · exact absurd rfl (four a b c d rest)

theorem lt_of_mem_clearSpare {values : List Nat} (within : ∀ value ∈ values, value < 64) :
    ∀ value ∈ clearSpare values, value < 64 := by
  fun_induction clearSpare values with
  | case1 a b =>
      simp only [List.forall_mem_cons] at within ⊢
      exact ⟨within.1, by omega, nofun⟩
  | case2 a b c =>
      simp only [List.forall_mem_cons] at within ⊢
      exact ⟨within.1, within.2.1, by omega, nofun⟩
  | case3 a b c d rest ih =>
      simp only [List.forall_mem_cons] at within ⊢
      obtain ⟨first, second, third, fourth, others⟩ := within
      exact ⟨first, second, third, fourth, ih others⟩
  | case4 => exact within

theorem sameButSpare_clearSpare {values : List Nat} (within : ∀ value ∈ values, value < 64) :
    SameButSpare (values.map digit) ((clearSpare values).map digit) := by
  fun_induction clearSpare values with
  | case1 a b =>
      simp only [List.forall_mem_cons] at within
      have high : b / 16 = b / 16 * 16 / 16 := by omega
      exact .last [digit a] within.2.1 (by omega) high
  | case2 a b c =>
      simp only [List.forall_mem_cons] at within
      have high : c / 4 = c / 4 * 4 / 4 := by omega
      exact .last [digit a, digit b] within.2.2.1 (by omega) high
  | case3 a b c d rest ih =>
      simp only [List.forall_mem_cons] at within
      obtain ⟨-, -, -, -, others⟩ := within
      have group : [digit a, digit b, digit c, digit d].length = 4 := rfl
      exact (ih others).append_left group
  | case4 => exact .refl _

/-- What is read is written in the same way but for the spare bits. -/
theorem sameButSpare_of_decode {text : List Char} {bytes : List UInt8}
    (read : decode .any text = some bytes) : SameButSpare text (encode bytes) := by
  obtain ⟨values, given, read⟩ := Option.bind_eq_some_iff.1 read
  obtain ⟨written, within⟩ := mapM_value?_eq_some given
  rw [decodeValues_any] at read
  rw [encode_of_decodeValues (lt_of_mem_clearSpare within) read, ← written]
  exact sameButSpare_clearSpare within

/-! ### What the spare bits do not change -/

/-- The last value counts without its spare bits. -/
theorem decodeValues_concat_congr {v w : Nat} : ∀ {front : List Nat},
    v / spareValues (front.length + 1) = w / spareValues (front.length + 1) →
      decodeValues .any (front ++ [v]) = decodeValues .any (front ++ [w])
  | [], _ => rfl
  | [a], high => by
      have high : v / 16 = w / 16 := high
      have whole : (a * 64 + v) / 16 = (a * 64 + w) / 16 := by omega
      simp [decodeValues, SpareBits.allows, whole]
  | [a, b], high => by
      have high : v / 4 = w / 4 := high
      have whole : (a * 4096 + b * 64 + v) / 4 = (a * 4096 + b * 64 + w) / 4 := by omega
      simp [decodeValues, SpareBits.allows, whole]
  | [a, b, c], high => by
      have same : v = w := by simpa [spareValues] using high
      rw [same]
  | a :: b :: c :: d :: front, high => by
      have length : (a :: b :: c :: d :: front).length + 1 = front.length + 1 + 4 := by
        simp only [List.length_cons]
      rw [length, spareValues_add_four] at high
      simp only [List.cons_append, decodeValues, decodeValues_concat_congr high]

theorem SameButSpare.decode_eq {text other : List Char} (same : SameButSpare text other) :
    decode .any text = decode .any other := by
  cases same with
  | refl => rfl
  | @last front v w small small' high =>
      rw [decode, decode, List.mapM_append, List.mapM_append]
      cases read : front.mapM value? with
      | none => rfl
      | some values =>
          obtain ⟨written, -⟩ := mapM_value?_eq_some read
          have length : front.length = values.length := by rw [← written, List.length_map]
          rw [length] at high
          simp [value?_digit small, value?_digit small', decodeValues_concat_congr high]

/-- A text is read as some bytes, whatever its spare bits are, exactly if it is the text that writes
these bytes but for the spare bits. -/
theorem decode_any_eq_some_iff {text : List Char} {bytes : List UInt8} :
    decode .any text = some bytes ↔ SameButSpare text (encode bytes) :=
  ⟨sameButSpare_of_decode, fun same => same.decode_eq.trans (decode_encode .any bytes)⟩

/-- There are only digits in a text that is read. -/
theorem mem_digits_of_decode {spare : SpareBits} {text : List Char} {bytes : List UInt8}
    (read : decode spare text = some bytes) : ∀ c ∈ text, c ∈ digits := by
  obtain ⟨values, given, -⟩ := Option.bind_eq_some_iff.1 read
  obtain ⟨written, -⟩ := mapM_value?_eq_some given
  rw [← written, List.forall_mem_map]
  exact fun value _ => digit_mem value

end ImageRequest.Codec.Base64Url

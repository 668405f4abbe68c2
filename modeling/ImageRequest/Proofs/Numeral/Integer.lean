import ImageRequest.Numeral.Integer
import Mathlib.Data.List.Induction

/-!
# Integer numerals as written

A row of decimal digits stands for a number, a natural numeral is such a row, possibly behind a plus
sign, and an integer numeral may have a minus sign instead. A row is nothing but the rendering of
its number with some zeros in front (`digits_iff_padded`), so that numerals have exact values,
however long they are. A text is read exactly if it is a numeral, as the value of this numeral.
-/

namespace ImageRequest.Numeral

/-- A row of decimal digits, at least one, and the number that it stands for. -/
inductive Digits : List Char → Nat → Prop where
  | single {d : Nat} (small : d < 10) : Digits [d.digitChar] d
  /-- A digit counts one, and what stands before it ten times as much as by itself. -/
  | snoc {row : List Char} {n d : Nat} (front : Digits row n) (small : d < 10) :
      Digits (row ++ [d.digitChar]) (10 * n + d)

/-- A natural numeral and its value. -/
inductive Natural : List Char → Nat → Prop where
  | unsigned {row : List Char} {n : Nat} (digits : Digits row n) : Natural row n
  | plus {row : List Char} {n : Nat} (digits : Digits row n) : Natural ('+' :: row) n

/-- An integer numeral and its value. -/
inductive Integer : List Char → Int → Prop where
  | natural {text : List Char} {n : Nat} (numeral : Natural text n) : Integer text n
  | minus {row : List Char} {n : Nat} (digits : Digits row n) : Integer ('-' :: row) (-n)

/-! ### Rows of digits -/

section

variable {row : List Char} {n : Nat}

theorem valueFrom_eq_ofDigitChars (value : Nat) (row : List Char) :
    valueFrom value row = Nat.ofDigitChars 10 row value := by
  simp only [valueFrom, Nat.ofDigitChars, digitValue, Nat.mul_comm]

theorem valueFrom_append_digit {d : Nat} (small : d < 10) :
    valueFrom 0 (row ++ [d.digitChar]) = 10 * valueFrom 0 row + d := by
  simp only [valueFrom_eq_ofDigitChars, Nat.ofDigitChars_append,
    Nat.ofDigitChars_cons_digitChar_of_lt_ten small, Nat.ofDigitChars_nil]

theorem exists_digitChar {c : Char} (digit : c.isDigit = true) : ∃ d < 10, c = d.digitChar := by
  obtain ⟨low, high⟩ := Char.isDigit_iff_toNat.1 digit
  have zero : '0'.toNat = 48 := rfl
  have nine : '9'.toNat = 57 := rfl
  have small : c.toNat - 48 < 10 := by omega
  refine ⟨c.toNat - 48, small, Char.toNat_inj.1 ?_⟩
  rw [Nat.toNat_digitChar_of_lt_ten small]
  omega

theorem digits_iff :
    Digits row n ↔ row ≠ [] ∧ (∀ c ∈ row, c.isDigit = true) ∧ valueFrom 0 row = n := by
  constructor
  · intro digits
    induction digits with
    | single small =>
        refine ⟨List.cons_ne_nil _ _, by simpa using small, ?_⟩
        simpa [valueFrom] using @valueFrom_append_digit [] _ small
    | snoc front small ih =>
        obtain ⟨-, all, rfl⟩ := ih
        refine ⟨by simp, ?_, valueFrom_append_digit small⟩
        rw [List.forall_mem_append]
        exact ⟨all, by simpa using small⟩
  · rintro ⟨some, all, rfl⟩
    induction row using List.reverseRecOn with
    | nil => exact absurd rfl some
    | append_singleton front c ih =>
        obtain ⟨before, last⟩ := List.forall_mem_append.1 all
        obtain ⟨d, small, rfl⟩ := exists_digitChar (last c List.mem_cons_self)
        rw [valueFrom_append_digit small]
        -- the first digit of a row has no row in front of it
        by_cases alone : front = []
        · subst alone
          simpa [valueFrom] using Digits.single small
        · exact .snoc (ih alone before) small

/-- A text that begins with another character, such as a sign, is no row of digits. -/
theorem not_digits_cons {c : Char} (other : c.isDigit = false) : ¬ Digits (c :: row) n := by
  intro digits
  have digit := (digits_iff.1 digits).2.1 c List.mem_cons_self
  simp [other] at digit

theorem toList_toString (n : Nat) : (toString n).toList = Nat.toDigits 10 n := by
  rw [Nat.toString_eq_repr, Nat.toList_repr]

/-- A digit behind the rendering of a number, apart from zeros in front. -/
theorem exists_padded_snoc (n : Nat) {d : Nat} (small : d < 10) :
    ∃ zeros, (toString n).toList ++ [d.digitChar] =
      List.replicate zeros '0' ++ (toString (10 * n + d)).toList := by
  simp only [toList_toString]
  rw [← Nat.toDigits_of_lt_base small]
  rcases Nat.eq_zero_or_pos n with rfl | positive
  · exact ⟨1, by simp⟩
  · exact ⟨0, Nat.toDigits_append_toDigits (by decide) positive small⟩

/-- The rows that stand for a number are its rendering and those with more zeros in front. -/
theorem digits_iff_padded :
    Digits row n ↔ ∃ zeros, row = List.replicate zeros '0' ++ (toString n).toList := by
  constructor
  · intro digits
    induction digits with
    | single small => exact ⟨0, by rw [toList_toString, Nat.toDigits_of_lt_base small]; rfl⟩
    | @snoc _ n d _ small ih =>
        obtain ⟨zeros, rfl⟩ := ih
        obtain ⟨more, same⟩ := exists_padded_snoc n small
        refine ⟨zeros + more, ?_⟩
        rw [List.append_assoc, same, ← List.append_assoc, List.replicate_append_replicate]
  · rintro ⟨zeros, rfl⟩
    rw [toList_toString]
    refine digits_iff.2 ⟨by simp [Nat.toDigits_ne_nil], ?_, ?_⟩
    · rw [List.forall_mem_append]
      refine ⟨fun c mem => ?_, fun c mem => Nat.isDigit_of_mem_toDigits (by decide) (by decide) mem⟩
      rw [List.eq_of_mem_replicate mem]
      rfl
    · rw [valueFrom_eq_ofDigitChars, Nat.ofDigitChars_append, Nat.ofDigitChars_replicate_zero,
        Nat.mul_zero, Nat.ofDigitChars_ten_toDigits]

end

/-! ### Renderings -/

theorem digits_toString (n : Nat) : Digits (toString n).toList n :=
  digits_iff_padded.2 ⟨0, rfl⟩

theorem natural_toString (n : Nat) : Natural (toString n).toList n :=
  .unsigned (digits_toString n)

theorem integer_toString (z : Int) : Integer (toString z).toList z := by
  cases z with
  | ofNat n => exact .natural (natural_toString n)
  | negSucc n =>
      have rendered : (toString (Int.negSucc n)).toList = '-' :: (toString (n + 1)).toList := by
        rw [Int.toString_eq_repr, Int.repr, String.toList_append]
        rfl
      rw [rendered]
      exact .minus (digits_toString (n + 1))

/-! ### Readers -/

section

variable {text : List Char} {token : String} {n : Nat} {z : Int}

theorem unsigned?_eq_some_iff : unsigned? text = some n ↔ Digits text n := by
  simp [unsigned?, digits_iff, and_assoc]

theorem nat?_eq_some_iff : nat? text = some n ↔ Natural text n := by
  constructor
  · intro read
    unfold nat? at read
    split at read
    · exact .plus (unsigned?_eq_some_iff.1 read)
    · exact .unsigned (unsigned?_eq_some_iff.1 read)
  · intro numeral
    cases numeral with
    | plus digits => exact unsigned?_eq_some_iff.2 digits
    | unsigned digits =>
        unfold nat?
        split
        -- a sign is no digit, so that the branch for signs is not taken
        · exact absurd digits (not_digits_cons rfl)
        · exact unsigned?_eq_some_iff.2 digits

/-- Behind a minus sign, the number that the digits stand for is negated. -/
theorem int?_cons_minus (row : List Char) :
    int? ('-' :: row) = (unsigned? row).map fun n : Nat => -(n : Int) := by
  rw [int?]
  cases unsigned? row <;> rfl

theorem int?_eq_some_iff : int? text = some z ↔ Integer text z := by
  constructor
  · intro read
    rw [int?.eq_def] at read
    split at read
    case h_1 row =>
        change int? ('-' :: row) = some z at read
        rw [int?_cons_minus] at read
        obtain ⟨n, digits, rfl⟩ := Option.map_eq_some_iff.1 read
        exact .minus (unsigned?_eq_some_iff.1 digits)
    case h_2 =>
        obtain ⟨n, numeral, rfl⟩ := Option.map_eq_some_iff.1 read
        exact .natural (nat?_eq_some_iff.1 numeral)
  · intro numeral
    cases numeral with
    | minus digits =>
        rw [int?_cons_minus, unsigned?_eq_some_iff.2 digits]
        rfl
    | natural numeral =>
        rw [int?.eq_def]
        split
        · cases numeral with
          | unsigned digits => exact absurd digits (not_digits_cons rfl)
        · rw [nat?_eq_some_iff.2 numeral]
          rfl

theorem natUpTo?_eq_some_iff {bound : Nat} :
    natUpTo? bound token = some n ↔ Natural token.toList n ∧ n ≤ bound := by
  rw [natUpTo?, Option.filter_eq_some_iff, nat?_eq_some_iff, decide_eq_true_iff]

theorem intBetween?_eq_some_iff {low high : Int} :
    intBetween? low high token = some z ↔ Integer token.toList z ∧ low ≤ z ∧ z ≤ high := by
  rw [intBetween?, Option.filter_eq_some_iff, int?_eq_some_iff, Bool.and_eq_true,
    decide_eq_true_iff, decide_eq_true_iff]

end

end ImageRequest.Numeral

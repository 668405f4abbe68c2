import ImageRequest.Proofs.Directive
import ImageRequest.Proofs.Text.Split

/-!
# Segments taken apart

Segments are read as directives up to the first one in which the separator does not occur, and this
loses nothing: each directive joins to the segment that it was read from, and the other segments are
left as they are (`leading_lossless`). A separator of several characters may overlap with itself; it
is read where it stands first, so that none is left in a name or an argument.
-/

namespace ImageRequest.Directive

variable {separator : String}

/-- A segment has the separator in it. -/
def holds (separator segment : String) : Bool :=
  Text.occursIn separator.toList segment.toList

/-- What is read from a segment has an argument, and joins to the segment at separators of which
none was there before. -/
structure IsReadFrom (separator : String) (directive : Directive) (segment : String) : Prop where
  arguments : directive.arguments ≠ []
  joined : directive.segment separator = segment
  separated : Text.Separated separator.toList
    ((directive.name :: directive.arguments).map String.toList)

theorem isReadFrom_of_ofSegment? (some : separator ≠ "") {segment : String} {directive : Directive}
    (read : ofSegment? separator segment = .some directive) :
    directive.IsReadFrom separator segment := by
  obtain ⟨pieces, arguments⟩ := ofSegment?_eq_some_iff.1 read
  obtain ⟨separated, joined⟩ := (Text.split_eq_iff some).1 pieces
  exact { arguments, joined, separated }

/-- No token of what is read has the separator in it. -/
theorem IsReadFrom.not_infix {directive : Directive} {segment : String}
    (read : directive.IsReadFrom separator segment) :
    ∀ token ∈ directive.name :: directive.arguments, ¬ separator.toList <:+: token.toList :=
  fun token mem => read.separated.not_infix token.toList (List.mem_map_of_mem mem)

theorem ofSegment?_ne_none_iff (some : separator ≠ "") {segment : String} :
    ofSegment? separator segment ≠ none ↔ holds separator segment = true := by
  rw [ne_eq, ofSegment?_eq_none_iff some, not_not, holds, Text.occursIn_iff]

theorem ofSegment?_ne_none_of_mem (some : separator ≠ "") (segments : List String) :
    ∀ segment ∈ segments.takeWhile (holds separator), ofSegment? separator segment ≠ none :=
  fun _ mem => (ofSegment?_ne_none_iff some).2 (List.mem_takeWhile_imp mem)

/-- The segments before the first one without the separator are read one by one, and the rest begins
with this one. -/
theorem leading_eq (some : separator ≠ "") (segments : List String) :
    leading separator segments =
      ((segments.takeWhile (holds separator)).filterMap (ofSegment? separator),
        segments.dropWhile (holds separator)) := by
  have stops : ∀ segment ∈ (segments.dropWhile (holds separator)).head?,
      ¬ separator.toList <:+: segment.toList := by
    intro segment first within
    have none := List.head?_dropWhile_not (holds separator) segments
    rw [Option.mem_def.1 first] at none
    simp [holds, Text.occursIn_iff.2 within] at none
  have parts : segments.takeWhile (holds separator) ++ segments.dropWhile (holds separator) =
      segments := List.takeWhile_append_dropWhile
  have read := leading_append (ofSegment?_ne_none_of_mem some segments)
    (segments.dropWhile (holds separator))
  rwa [parts, leading_eq_nil stops, List.append_nil] at read

/-- The directives read from some segments join to the segments before the first one in which the
separator does not occur, one directive to each and in order, and the rest are the segments from
this one on. Each directive has at least one argument, and the separator occurs neither in its name
nor in its arguments; it was read as early as it stands in the segment. -/
theorem leading_lossless (some : separator ≠ "") (segments : List String) :
    let directives := (leading separator segments).1
    let rest := (leading separator segments).2
    rest = segments.dropWhile (holds separator) ∧
      directives.map (segment separator) = segments.takeWhile (holds separator) ∧
      ∀ directive ∈ directives, directive.arguments ≠ [] ∧
        (∀ token ∈ directive.name :: directive.arguments,
          ¬ separator.toList <:+: token.toList) ∧
        Text.Separated separator.toList
          ((directive.name :: directive.arguments).map String.toList) := by
  simp only [leading_eq some, true_and]
  refine ⟨map_segment_filterMap some (ofSegment?_ne_none_of_mem some segments), ?_⟩
  intro directive mem
  obtain ⟨segment, -, found⟩ := List.mem_filterMap.1 mem
  have read := isReadFrom_of_ofSegment? some found
  exact ⟨read.arguments, read.not_infix, read.separated⟩

/-- Of three equal characters the first two are the separator, and two that do not follow one
another are none. -/
theorem leading_lossless_overlapping :
    "aa" ≠ "" ∧
      leading "aa" ["aaa", "baaab", "aba", "caad"] =
        ([{ name := "", arguments := ["a"] }, { name := "b", arguments := ["ab"] }],
          ["aba", "caad"]) ∧
      ["aaa", "baaab", "aba", "caad"].dropWhile (holds "aa") = ["aba", "caad"] ∧
      ["aaa", "baaab", "aba", "caad"].takeWhile (holds "aa") =
        ["aa".intercalate ["", "a"], "aa".intercalate ["b", "ab"]] := by
  have some : "aa" ≠ "" := by decide
  have read : leading "aa" ["aaa", "baaab", "aba", "caad"] =
      ([{ name := "", arguments := ["a"] }, { name := "b", arguments := ["ab"] }],
        ["aba", "caad"]) := by decide
  obtain ⟨rest, joined, -⟩ := leading_lossless some ["aaa", "baaab", "aba", "caad"]
  rw [read] at rest joined
  exact ⟨some, read, rest.symm, joined.symm⟩

end ImageRequest.Directive

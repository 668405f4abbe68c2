import ImageRequest.Directive
import ImageRequest.Proofs.Text.Join

/-!
# Directives read back

A segment with the separator in it is read as the name in front of the first separator and the
arguments behind it, and one without is no directive. So the leading segments that write directives
are read as these directives, up to a segment in which the separator does not occur
(`leading_map_segment_append`).
-/

namespace ImageRequest.Directive

variable {separator : String} {d : Char}

theorem ofSegment?_of_not_infix {segment : String}
    (absent : ¬ separator.toList <:+: segment.toList) : ofSegment? separator segment = none := by
  rw [ofSegment?, Text.split_of_not_infix absent]

theorem ofSegment?_eq_some_iff {segment : String} {directive : Directive} :
    ofSegment? separator segment = some directive ↔
      Text.split separator segment = directive.name :: directive.arguments ∧
        directive.arguments ≠ [] := by
  rw [ofSegment?]
  constructor
  · intro read
    split at read
    · rename_i name argument arguments pieces
      cases read
      exact ⟨pieces, List.cons_ne_nil _ _⟩
    · cases read
  · rintro ⟨pieces, more⟩
    obtain ⟨name, arguments⟩ := directive
    obtain ⟨argument, arguments, rfl⟩ := List.exists_cons_of_ne_nil more
    rw [pieces]

/-- A segment is a directive exactly if the separator occurs in it. -/
theorem ofSegment?_eq_none_iff (some : separator ≠ "") {segment : String} :
    ofSegment? separator segment = none ↔ ¬ separator.toList <:+: segment.toList := by
  refine ⟨fun none within => ?_, ofSegment?_of_not_infix⟩
  have whole : ∃ last, Text.split separator segment = [last] := by
    cases pieces : Text.split separator segment with
    | nil => exact absurd pieces (Text.split_ne_nil _ _)
    | cons name arguments =>
        cases arguments with
        | nil => exact ⟨name, rfl⟩
        | cons argument arguments =>
            have read : ofSegment? separator segment =
                .some { name, arguments := argument :: arguments } :=
              ofSegment?_eq_some_iff.2 ⟨pieces, List.cons_ne_nil _ _⟩
            cases none.symm.trans read
  obtain ⟨last, pieces⟩ := whole
  obtain ⟨absent, joined⟩ := (Text.split_eq_iff some).1 pieces
  rw [String.intercalate_singleton] at joined
  exact absent (joined ▸ within)

theorem ofSegment?_singleton_ne_none {segment : String} (within : d ∈ segment.toList) :
    ofSegment? (String.singleton d) segment ≠ none := by
  rw [Ne, ofSegment?_eq_none_iff (by simp), String.toList_singleton, List.singleton_infix_iff,
    not_not]
  exact within

theorem ne_empty_of_ofSegment? (some : separator ≠ "") {segment : String}
    (read : ofSegment? separator segment ≠ none) : segment ≠ "" := by
  rintro rfl
  exact read ((ofSegment?_eq_none_iff some).2 (by simpa using some))

/-- What a segment writes is read from it exactly if the separator is found where it was put. -/
theorem ofSegment?_segment_iff (some : separator ≠ "") {directive : Directive}
    (more : directive.arguments ≠ []) :
    ofSegment? separator (directive.segment separator) = .some directive ↔
      Text.Separated separator.toList
        ((directive.name :: directive.arguments).map String.toList) := by
  rw [ofSegment?_eq_some_iff, and_iff_left more, Text.split_eq_iff some, and_iff_left]
  rfl

/-- What stands neither in the separator nor in a token does not stand in the segment. -/
theorem not_mem_segment {c : Char} {directive : Directive} (other : c ∉ separator.toList)
    (tokens : ∀ token ∈ directive.name :: directive.arguments, c ∉ token.toList) :
    c ∉ (directive.segment separator).toList := by
  intro within
  rcases Text.mem_of_mem_intercalate within with within | ⟨token, mem, within⟩
  · exact other within
  · exact tokens token mem within

/-- The name ends where the separator begins. -/
theorem ofSegment?_append (begins : separator.toList.head? = some d) {name : String}
    (absent : d ∉ name.toList) (text : String) :
    ofSegment? separator (name ++ separator ++ text) =
      some { name, arguments := Text.split separator text } := by
  rw [ofSegment?, Text.split_append begins absent]
  cases pieces : Text.split separator text with
  | nil => exact absurd pieces (Text.split_ne_nil _ _)
  | cons argument arguments => rfl

/-- The first segment in which the separator does not occur ends the directives. -/
theorem leading_eq_nil {segments : List String}
    (stops : ∀ segment ∈ segments.head?, ¬ separator.toList <:+: segment.toList) :
    leading separator segments = ([], segments) := by
  cases segments with
  | nil => rfl
  | cons segment segments =>
      rw [leading, ofSegment?_of_not_infix (stops segment rfl)]

/-- Leading segments that are directives are read one by one. -/
theorem leading_append {before : List String}
    (directives : ∀ segment ∈ before, ofSegment? separator segment ≠ none) (rest : List String) :
    leading separator (before ++ rest) =
      (before.filterMap (ofSegment? separator) ++ (leading separator rest).1,
        (leading separator rest).2) := by
  induction before with
  | nil => rfl
  | cons segment before ih =>
      obtain ⟨first, others⟩ := List.forall_mem_cons.1 directives
      obtain ⟨directive, read⟩ := Option.ne_none_iff_exists'.1 first
      rw [List.cons_append, leading, read, ih others, List.filterMap_cons_some read]
      rfl

/-- Where nothing is left over, all segments are directives. -/
theorem ofSegment?_of_leading {segments : List String} {directives : List Directive}
    (all : leading separator segments = (directives, [])) :
    (∀ segment ∈ segments, ofSegment? separator segment ≠ none) ∧
      segments.filterMap (ofSegment? separator) = directives := by
  induction segments generalizing directives with
  | nil =>
      cases all
      exact ⟨List.forall_mem_nil _, rfl⟩
  | cons segment segments ih =>
      rw [leading] at all
      cases read : ofSegment? separator segment with
      | none =>
          rw [read] at all
          cases all
      | some directive =>
          rw [read] at all
          obtain ⟨rfl, nothing⟩ := Prod.mk.inj all
          obtain ⟨others, same⟩ := ih (Prod.ext rfl nothing)
          refine ⟨List.forall_mem_cons.2 ⟨by simp [read], others⟩, ?_⟩
          rw [List.filterMap_cons_some read, same]

theorem leading_cons {segment : String} {segments rest : List String} {directive : Directive}
    {directives : List Directive} (read : ofSegment? separator segment = some directive)
    (later : leading separator segments = (directives, rest)) :
    leading separator (segment :: segments) = (directive :: directives, rest) := by
  rw [leading, read, later]

/-- A directive in front of other segments, whose name has no character of the separator in it. -/
theorem leading_append_cons {name : String} {rest : List String} (some : separator ≠ "")
    (disjoint : ∀ c ∈ name.toList, c ∉ separator.toList)
    (stops : ∀ segment ∈ rest.head?, ¬ separator.toList <:+: segment.toList) (text : String) :
    leading separator ((name ++ separator ++ text) :: rest) =
      ([{ name, arguments := Text.split separator text }], rest) := by
  cases begins : separator.toList.head? with
  | none => exact absurd (by simpa using begins) some
  | some d =>
      have absent : d ∉ name.toList := fun mem => disjoint d mem (List.mem_of_head? begins)
      exact leading_cons (ofSegment?_append begins absent text) (leading_eq_nil stops)

/-- The directives that can be written with a separator of one character: they have arguments, and
neither the separator nor a slash stands in their tokens. -/
structure Writable (separator : Char) (directive : Directive) : Prop where
  arguments : directive.arguments ≠ []
  separator : ∀ token ∈ directive.name :: directive.arguments, separator ∉ token.toList
  slash : ∀ token ∈ directive.name :: directive.arguments, '/' ∉ token.toList

namespace Writable

variable {directive : Directive}

/-- What a segment writes is read from it. -/
theorem ofSegment?_segment (writable : directive.Writable d) :
    ofSegment? (String.singleton d) (directive.segment (String.singleton d)) = some directive := by
  have begins : (String.singleton d).toList.head? = some d := by simp
  obtain ⟨absent, others⟩ := List.forall_mem_cons.1 writable.separator
  rw [segment, String.intercalate_cons_of_ne_nil writable.arguments, ofSegment?_append begins absent,
    Text.split_intercalate begins others writable.arguments]

theorem slash_not_mem_segment (writable : directive.Writable d) (other : d ≠ '/') :
    '/' ∉ (directive.segment (String.singleton d)).toList :=
  not_mem_segment (by simpa using other.symm) writable.slash

end Writable

/-- Leading segments that write directives are read as these directives. -/
theorem leading_map_segment_append {directives : List Directive}
    (writable : ∀ directive ∈ directives, directive.Writable d) {rest : List String}
    (stops : ∀ segment ∈ rest.head?, d ∉ segment.toList) :
    leading (String.singleton d) (directives.map (segment (String.singleton d)) ++ rest) =
      (directives, rest) := by
  induction directives with
  | nil =>
      refine leading_eq_nil fun segment first found => stops segment first ?_
      exact found.subset (by simp)
  | cons directive directives ih =>
      obtain ⟨first, others⟩ := List.forall_mem_cons.1 writable
      exact leading_cons first.ofSegment?_segment (ih others)

/-- A segment that is read as a directive is the one that writes it. -/
theorem segment_eq_of_ofSegment? (some : separator ≠ "") {segment : String} {directive : Directive}
    (read : ofSegment? separator segment = .some directive) :
    directive.segment separator = segment := by
  obtain ⟨pieces, -⟩ := ofSegment?_eq_some_iff.1 read
  rw [Directive.segment, ← pieces, Text.intercalate_split some]

/-- What stands in a token stands in the segment. -/
theorem mem_segment_of_mem {c : Char} {directive : Directive} {token : String}
    (mem : token ∈ directive.name :: directive.arguments) (within : c ∈ token.toList) :
    c ∈ (directive.segment separator).toList :=
  Text.mem_intercalate_of_mem mem within

theorem writable_of_ofSegment? {segment : String} {directive : Directive}
    (read : ofSegment? (String.singleton d) segment = some directive)
    (slash : '/' ∉ segment.toList) : directive.Writable d := by
  obtain ⟨pieces, arguments⟩ := ofSegment?_eq_some_iff.1 read
  have written := segment_eq_of_ofSegment? (by simp) read
  refine { arguments, separator := fun token mem => ?_, slash := fun token mem within => slash ?_ }
  · exact Text.not_mem_of_mem_split (String.toList_singleton d) (pieces ▸ mem)
  · exact written ▸ mem_segment_of_mem mem within

/-- Segments that are directives are the ones that write them. -/
theorem map_segment_filterMap (some : separator ≠ "") {segments : List String}
    (directives : ∀ segment ∈ segments, ofSegment? separator segment ≠ none) :
    (segments.filterMap (ofSegment? separator)).map (segment separator) = segments := by
  induction segments with
  | nil => rfl
  | cons first segments ih =>
      obtain ⟨here, others⟩ := List.forall_mem_cons.1 directives
      obtain ⟨directive, read⟩ := Option.ne_none_iff_exists'.1 here
      rw [List.filterMap_cons_some read, List.map_cons, segment_eq_of_ofSegment? some read,
        ih others]

/-- The pieces of a text at its slashes are all directives exactly if the text is the one that
writes them. -/
theorem leading_split_eq_iff (other : d ≠ '/') {text : String} {directives : List Directive} :
    leading (String.singleton d) (Text.split "/" text) = (directives, []) ↔
      text = "/".intercalate (directives.map (segment (String.singleton d))) ∧ directives ≠ [] ∧
        ∀ directive ∈ directives, directive.Writable d := by
  constructor
  · intro all
    obtain ⟨each, rfl⟩ := ofSegment?_of_leading all
    have written := map_segment_filterMap (by simp) each
    refine ⟨?_, fun nothing => ?_, fun directive mem => ?_⟩
    · rw [written, Text.intercalate_split (by decide)]
    · rw [nothing, List.map_nil] at written
      exact Text.split_ne_nil _ _ written.symm
    · obtain ⟨segment, mem, read⟩ := List.mem_filterMap.1 mem
      exact writable_of_ofSegment? read (Text.not_mem_of_mem_split (d := '/') rfl mem)
  · rintro ⟨rfl, some, writable⟩
    have slash : ∀ written ∈ directives.map (segment (String.singleton d)),
        '/' ∉ written.toList :=
      List.forall_mem_map.2 fun directive mem => (writable directive mem).slash_not_mem_segment other
    have read : leading (String.singleton d) (directives.map (segment (String.singleton d)) ++ []) =
        (directives, []) := leading_map_segment_append writable nofun
    rw [List.append_nil] at read
    rw [Text.split_intercalate (d := '/') rfl slash (by simpa using some), read]

end ImageRequest.Directive

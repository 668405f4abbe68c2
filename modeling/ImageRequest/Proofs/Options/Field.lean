import ImageRequest.Proofs.Script

/-!
# Fields that edits write

Every edit writes a single field of the options, and what it writes there depends on that field
alone. Edits of different fields may therefore change places, and what some edits make of the
options is fixed by the edits of each field in their order (`applyAll_eq_of_filter`).
-/

namespace ImageRequest

/-- A field of the options that directives can write. -/
inductive Field where
  | resizingType
  | width
  | height
  | minWidth
  | minHeight
  | dpr
  | gravity
  | enlarge
  | extension
  | crop
  | padding
  | trim
  | rotation
  | format
  | quality
  | maxBytes
  | flatten
  | background
  | blur
  | sharpen
  | stripMetadata
  | stripColorProfile
  | autoRotate
  | watermark
  | skippedFormats
  | cacheBuster
  | filename
deriving Repr, DecidableEq

namespace Edit

/-- The field that an edit writes. -/
def field : Edit → Field
  | resizingType _ => .resizingType
  | width _ => .width
  | height _ => .height
  | minWidth _ => .minWidth
  | minHeight _ => .minHeight
  | dpr _ => .dpr
  | gravity _ => .gravity
  | enlarge _ => .enlarge
  | extension _ => .extension
  | crop _ => .crop
  | padding _ => .padding
  | trim _ => .trim
  | rotation _ => .rotation
  | format _ => .format
  | quality _ => .quality
  | maxBytes _ => .maxBytes
  | flatten _ => .flatten
  | background _ => .background
  | blur _ => .blur
  | sharpen _ => .sharpen
  | stripMetadata _ => .stripMetadata
  | stripColorProfile _ => .stripColorProfile
  | autoRotate _ => .autoRotate
  | watermark _ => .watermark
  | skip _ => .skippedFormats
  | cacheBuster _ => .cacheBuster
  | filename _ => .filename

/-- Edits of different fields commute. -/
theorem apply_comm {first second : Edit} (different : first.field ≠ second.field)
    (options : Options) :
    first.apply (second.apply options) = second.apply (first.apply options) := by
  -- two kinds of edits write two fields; a kind paired with itself is ruled out
  cases first <;> cases second <;> first | rfl | exact absurd rfl different

/-- An edit may be made before edits of other fields. -/
theorem applyAll_append_cons {before after : List Edit} {edit : Edit}
    (others : ∀ other ∈ before, other.field ≠ edit.field) (options : Options) :
    applyAll (before ++ edit :: after) options = applyAll (edit :: (before ++ after)) options := by
  induction before generalizing options with
  | nil => rfl
  | cons other before ih =>
      obtain ⟨different, others⟩ := List.forall_mem_cons.1 others
      calc applyAll (other :: (before ++ edit :: after)) options
        _ = applyAll (before ++ edit :: after) (other.apply options) := applyAll_cons ..
        _ = applyAll (before ++ after) (edit.apply (other.apply options)) := ih others _
        _ = applyAll (before ++ after) (other.apply (edit.apply options)) := by
            rw [apply_comm different]
        _ = applyAll (edit :: other :: (before ++ after)) options := rfl

/-- Edits that are the same field by field, each field in order, make the same of all options. -/
theorem applyAll_eq_of_filter {first second : List Edit}
    (same : ∀ field, first.filter (·.field = field) = second.filter (·.field = field))
    (options : Options) : applyAll first options = applyAll second options := by
  induction first generalizing second options with
  | nil =>
      -- an edit on the other side would be left over for its own field
      have nothing : second = [] := by
        refine List.eq_nil_iff_forall_not_mem.2 fun edit mem => ?_
        have left : edit ∈ second.filter (·.field = edit.field) :=
          List.mem_filter.2 ⟨mem, decide_eq_true rfl⟩
        rw [← same edit.field] at left
        cases left
      rw [nothing]
  | cons edit first ih =>
      -- on the other side the edit is the first one of its field
      have own := same edit.field
      rw [List.filter_cons_of_pos (by simp)] at own
      obtain ⟨before, after, rfl, others, -, -⟩ := List.filter_eq_cons_iff.1 own.symm
      have others : ∀ other ∈ before, other.field ≠ edit.field := by simpa using others
      rw [applyAll_append_cons others, applyAll_cons, applyAll_cons]
      refine ih (fun field => ?_) _
      have rest := same field
      by_cases written : edit.field = field
      · have none : before.filter (·.field = field) = [] := by
          simpa [List.filter_eq_nil_iff, ← written] using others
        simpa [written, none] using rest
      · simpa [written] using rest

end Edit

end ImageRequest

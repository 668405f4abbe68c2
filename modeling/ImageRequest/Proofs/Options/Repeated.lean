import ImageRequest.Proofs.Options.Field

/-!
# Edits that are made again

A steady edit writes what it says, whatever it finds: an earlier one is lost as soon as the same
edit is made again, and what other steady edits have done in between stays done (`apply_absorb`).
Steady edits that are made a second time in a row therefore change nothing (`applyAll_twice`).

Two edits are not steady. One more format to be passed on is one more each time, and whether a
padding is left out of account depends on the lengths that it has by then.
-/

namespace ImageRequest

namespace Gravity

variable (gravity : Gravity) (placement other : Placement)

theorem place_idem : (gravity.place placement).place placement = gravity.place placement := by
  obtain ⟨anchor, x?, y?⟩ := placement
  cases x? <;> cases y? <;> rfl

theorem place_absorb :
    ((gravity.place placement).place other).place placement =
      (gravity.place other).place placement := by
  obtain ⟨anchor, x?, y?⟩ := placement
  cases x? <;> cases y? <;> rfl

end Gravity

namespace Color.Edit

variable (edit other : Color.Edit) (color : Color)

theorem apply_idem : edit.apply (edit.apply color) = edit.apply color := by
  cases edit <;> rfl

theorem apply_absorb :
    edit.apply (other.apply (edit.apply color)) = edit.apply (other.apply color) := by
  cases edit <;> cases other <;> rfl

end Color.Edit

namespace Extension.Edit

variable (edit other : Extension.Edit) (extension : Extension)

theorem apply_idem : edit.apply (edit.apply extension) = edit.apply extension := by
  cases edit with
  | enabled value => rfl
  | gravity placement =>
      simp only [apply, extension.gravity.place_idem]

theorem apply_absorb :
    edit.apply (other.apply (edit.apply extension)) = edit.apply (other.apply extension) := by
  cases edit with
  | enabled value => cases other <;> rfl
  | gravity placement =>
      cases other with
      | enabled value => simp only [apply, extension.gravity.place_idem]
      | gravity between => simp only [apply, extension.gravity.place_absorb]

end Extension.Edit

namespace Crop.Edit

variable (edit other : Crop.Edit) (crop : Crop)

theorem apply_idem : edit.apply (edit.apply crop) = edit.apply crop := by
  cases edit with
  | gravity placement => simp only [apply, crop.gravity.place_idem]
  | _ => rfl

theorem apply_absorb :
    edit.apply (other.apply (edit.apply crop)) = edit.apply (other.apply crop) := by
  cases edit with
  | gravity placement =>
      cases other with
      | gravity between => simp only [apply, crop.gravity.place_absorb]
      | _ => simp only [apply, crop.gravity.place_idem]
  | _ => cases other <;> rfl

end Crop.Edit

namespace Padding.Edit

/-- An edit of a padding that is steady: all but the last one. -/
def IsSteady : Padding.Edit → Prop
  | disableIfEmpty => False
  | _ => True

variable {edit other : Padding.Edit}

theorem apply_idem (steady : edit.IsSteady) (padding : Padding) :
    edit.apply (edit.apply padding) = edit.apply padding := by
  cases edit with
  | disableIfEmpty => exact steady.elim
  | _ => rfl

theorem apply_absorb (steady : edit.IsSteady) (steady' : other.IsSteady) (padding : Padding) :
    edit.apply (other.apply (edit.apply padding)) = edit.apply (other.apply padding) := by
  cases other with
  | disableIfEmpty => exact steady'.elim
  | _ =>
      cases edit with
      | disableIfEmpty => exact steady.elim
      | _ => rfl

/-- A padding that is taken into account may have been left out of account before. -/
theorem apply_enable_disableIfEmpty (padding : Padding) :
    enable.apply (disableIfEmpty.apply padding) = enable.apply padding := by
  simp only [apply]
  split <;> rfl

end Padding.Edit

namespace Trim.Edit

variable (edit other : Trim.Edit) (trim : Trim)

theorem apply_idem : edit.apply (edit.apply trim) = edit.apply trim := by
  cases edit <;> rfl

theorem apply_absorb :
    edit.apply (other.apply (edit.apply trim)) = edit.apply (other.apply trim) := by
  cases edit <;> cases other <;> rfl

end Trim.Edit

namespace Watermark.Edit

variable (edit other : Watermark.Edit) (watermark : Watermark)

theorem apply_idem : edit.apply (edit.apply watermark) = edit.apply watermark := by
  cases edit <;> rfl

theorem apply_absorb :
    edit.apply (other.apply (edit.apply watermark)) = edit.apply (other.apply watermark) := by
  cases edit <;> cases other <;> rfl

end Watermark.Edit

namespace Edit

/-- An edit that writes the same whatever has been written before. -/
def IsSteady : Edit → Prop
  | padding edit => edit.IsSteady
  | skip _ => False
  | _ => True

variable {edit other : Edit}

theorem apply_idem (steady : edit.IsSteady) (options : Options) :
    edit.apply (edit.apply options) = edit.apply options := by
  cases edit with
  | gravity placement => simp only [apply, options.gravity.place_idem]
  | extension edit => simp only [apply, edit.apply_idem]
  | crop edit => simp only [apply, edit.apply_idem]
  | padding edit => simp only [apply, Padding.Edit.apply_idem steady]
  | trim edit => simp only [apply, edit.apply_idem]
  | background edit => simp only [apply, edit.apply_idem]
  | watermark edit => simp only [apply, edit.apply_idem]
  | skip value => exact steady.elim
  | _ => rfl

/-- Edits of one field: a steady one is lost when it is made again later. -/
theorem apply_absorb_of_field_eq (steady : edit.IsSteady) (steady' : other.IsSteady)
    (same : edit.field = other.field) (options : Options) :
    edit.apply (other.apply (edit.apply options)) = edit.apply (other.apply options) := by
  cases edit with
  | gravity placement =>
      cases other with
      | gravity between => simp only [apply, options.gravity.place_absorb]
      | _ => cases same
  | extension edit =>
      cases other with
      | extension other => simp only [apply, edit.apply_absorb]
      | _ => cases same
  | crop edit =>
      cases other with
      | crop other => simp only [apply, edit.apply_absorb]
      | _ => cases same
  | padding edit =>
      cases other with
      | padding other => simp only [apply, Padding.Edit.apply_absorb steady steady']
      | _ => cases same
  | trim edit =>
      cases other with
      | trim other => simp only [apply, edit.apply_absorb]
      | _ => cases same
  | background edit =>
      cases other with
      | background other => simp only [apply, edit.apply_absorb]
      | _ => cases same
  | watermark edit =>
      cases other with
      | watermark other => simp only [apply, edit.apply_absorb]
      | _ => cases same
  | skip value => exact steady.elim
  | _ =>
      -- the field is written as a whole
      cases other <;> rfl

/-- A steady edit is lost when it is made again later. -/
theorem apply_absorb (steady : edit.IsSteady) (steady' : other.IsSteady) (options : Options) :
    edit.apply (other.apply (edit.apply options)) = edit.apply (other.apply options) := by
  by_cases same : edit.field = other.field
  · exact apply_absorb_of_field_eq steady steady' same options
  · calc edit.apply (other.apply (edit.apply options))
      _ = other.apply (edit.apply (edit.apply options)) := apply_comm same _
      _ = other.apply (edit.apply options) := by rw [apply_idem steady]
      _ = edit.apply (other.apply options) := (apply_comm same _).symm

/-- So it is with any steady edits in between, and whatever comes after the second one. -/
theorem applyAll_cons_append_cons {between : List Edit} (steady : edit.IsSteady)
    (all : ∀ other ∈ between, other.IsSteady) (rest : List Edit) (options : Options) :
    applyAll (edit :: (between ++ edit :: rest)) options =
      applyAll (between ++ edit :: rest) options := by
  induction between generalizing options with
  | nil =>
      simp only [List.nil_append, applyAll_cons, apply_idem steady]
  | cons other between ih =>
      obtain ⟨first, all⟩ := List.forall_mem_cons.1 all
      calc applyAll (edit :: other :: (between ++ edit :: rest)) options
        _ = applyAll (between ++ edit :: rest) (other.apply (edit.apply options)) := rfl
        _ = applyAll (between ++ edit :: rest) (edit.apply (other.apply (edit.apply options))) :=
            (ih all _).symm
        _ = applyAll (between ++ edit :: rest) (edit.apply (other.apply options)) := by
            rw [apply_absorb steady first]
        _ = applyAll (between ++ edit :: rest) (other.apply options) := ih all _

/-- Steady edits are lost when all of them are made again later. -/
theorem applyAll_append_append {edits between : List Edit} (steady : ∀ edit ∈ edits, edit.IsSteady)
    (all : ∀ other ∈ between, other.IsSteady) (options : Options) :
    applyAll (edits ++ (between ++ edits)) options = applyAll (between ++ edits) options := by
  induction edits generalizing between options with
  | nil => rfl
  | cons edit edits ih =>
      obtain ⟨first, rest⟩ := List.forall_mem_cons.1 steady
      -- the first of the edits is dropped, and its later place goes over to what is in between
      have both : ∀ other ∈ edits ++ between, other.IsSteady := List.forall_mem_append.2 ⟨rest, all⟩
      have more : ∀ other ∈ between ++ [edit], other.IsSteady :=
        List.forall_mem_append.2 ⟨all, List.forall_mem_singleton.2 first⟩
      have dropped := applyAll_cons_append_cons first both edits options
      have others := ih rest more options
      simp only [List.append_assoc, List.cons_append, List.nil_append] at dropped others ⊢
      rw [dropped, others]

/-- Steady edits that are made twice in a row change nothing the second time. -/
theorem applyAll_twice {edits : List Edit} (steady : ∀ edit ∈ edits, edit.IsSteady)
    (options : Options) : applyAll edits (applyAll edits options) = applyAll edits options := by
  rw [← applyAll_append]
  exact applyAll_append_append steady (List.forall_mem_nil _) options

end Edit

end ImageRequest

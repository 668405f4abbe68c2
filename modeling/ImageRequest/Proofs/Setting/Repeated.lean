import ImageRequest.Proofs.Options.Repeated
import ImageRequest.Proofs.Setting.Fields

/-!
# Settings that are given again

All settings but one may be given the same arguments twice in a row, with no effect the second time
(`Setting.applyAll_twice`). Their edits are steady, with the padding as the exception; that one
starts with an edit by which its own last edit is taken back. The setting that is left out adds to a
list.
-/

namespace ImageRequest

/-- All edits are steady but those of two fields. -/
theorem Edit.isSteady_of_field_ne {edit : Edit} (notPadding : edit.field ≠ .padding)
    (notSkipped : edit.field ≠ .skippedFormats) : edit.IsSteady := by
  cases edit with
  | padding edit => exact absurd rfl notPadding
  | skip value => exact absurd rfl notSkipped
  | _ => trivial

theorem Edit.IsPaddingLength.isSteady {edit : Edit} (length : edit.IsPaddingLength) :
    edit.IsSteady := by
  obtain ⟨change, rfl, isLength⟩ := length
  cases change with
  | disableIfEmpty => exact isLength.elim
  | _ => trivial

/-- A padding that is taken into account may have been left out of account before. -/
theorem Edit.apply_enable_disableIfEmpty (options : Options) :
    (padding .enable).apply ((padding .disableIfEmpty).apply options) =
      (padding .enable).apply options := by
  simp only [apply, Padding.Edit.apply_enable_disableIfEmpty]

/-- The edits of a padding, although the last one of them is not steady. -/
theorem Script.applyAll_padding_twice {arguments : List String}
    (accepted : (padding arguments).rejection? = none) (options : Options) :
    Edit.applyAll (padding arguments).edits (Edit.applyAll (padding arguments).edits options) =
      Edit.applyAll (padding arguments).edits options := by
  obtain ⟨lengths, each, edits⟩ := edits_padding accepted
  have steady : ∀ edit ∈ .padding .enable :: lengths, edit.IsSteady :=
    List.forall_mem_cons.2 ⟨trivial, fun edit mem => (each edit mem).isSteady⟩
  have split : ∀ options, Edit.applyAll (padding arguments).edits options =
      (Edit.padding .disableIfEmpty).apply
        (Edit.applyAll (.padding .enable :: lengths) options) := by
    intro options
    rw [edits, ← List.cons_append, Edit.applyAll_append]
    rfl
  have again : ∀ options, Edit.applyAll (.padding .enable :: lengths)
      ((Edit.padding .disableIfEmpty).apply options) =
        Edit.applyAll (.padding .enable :: lengths) options := by
    intro options
    rw [Edit.applyAll_cons, Edit.applyAll_cons, Edit.apply_enable_disableIfEmpty]
  rw [split, split, again, Edit.applyAll_twice steady]

namespace Setting

theorem isSteady_script (now : Int) {setting : Setting} (notPadding : setting ≠ .padding)
    (notSkip : setting ≠ .skipProcessing) (arguments : List String) :
    (setting.script now arguments).AllEdits Edit.IsSteady := by
  have others : .padding ∉ setting.fields ∧ .skippedFormats ∉ setting.fields := by
    cases setting <;> first | decide | contradiction
  intro accepted edit mem
  have writes := setting.field_mem_fields now arguments accepted edit mem
  exact Edit.isSteady_of_field_ne (fun same => others.1 (same ▸ writes))
    fun same => others.2 (same ▸ writes)

/-- A setting that is not rejected makes its edits twice with the same effect as once, unless it
adds to a list. -/
theorem applyAll_twice {now : Int} {setting : Setting} {arguments : List String}
    (notSkip : setting ≠ .skipProcessing)
    (accepted : (setting.script now arguments).rejection? = none) (options : Options) :
    Edit.applyAll (setting.script now arguments).edits
        (Edit.applyAll (setting.script now arguments).edits options) =
      Edit.applyAll (setting.script now arguments).edits options := by
  by_cases padding : setting = .padding
  · subst padding
    exact Script.applyAll_padding_twice accepted options
  · exact Edit.applyAll_twice (isSteady_script now padding notSkip arguments accepted) options

end Setting

end ImageRequest

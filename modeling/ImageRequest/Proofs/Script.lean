import ImageRequest.Setting.Script

/-!
# What scripts write

A joined script goes through exactly when both of its parts do, and then it makes the edits of both.
`Script.AllEdits` says of a script that each of its edits satisfies a condition, provided that it is
not rejected; it has one rule for each way in which a script is put together.
-/

namespace ImageRequest

theorem Edit.applyAll_cons (edit : Edit) (edits : List Edit) (options : Options) :
    Edit.applyAll (edit :: edits) options = Edit.applyAll edits (edit.apply options) := rfl

/-- What every single one of some edits keeps, all of them together keep. -/
theorem Edit.applyAll_preserves {P : Options → Prop} {edits : List Edit} {options : Options}
    (step : ∀ edit ∈ edits, ∀ options, P options → P (edit.apply options))
    (initially : P options) : P (Edit.applyAll edits options) := by
  induction edits generalizing options with
  | nil => exact initially
  | cons edit edits ih =>
      obtain ⟨first, rest⟩ := List.forall_mem_cons.1 step
      exact ih rest (first options initially)

namespace Script

/-- A joined script ends with the first rejection of its parts. -/
theorem rejection?_append (first second : Script) :
    (first ++ second).rejection? = first.rejection?.or second.rejection? := by
  rw [append_def, append]
  cases rejected : first.rejection? with
  | none => rfl
  | some rejection => exact rejected

theorem rejection?_append_eq_none {first second : Script} :
    (first ++ second).rejection? = none ↔
      first.rejection? = none ∧ second.rejection? = none := by
  rw [append_def, append]
  split
  · rename_i rejection rejected
    simp [rejected]
  · rename_i accepted
    simp [accepted]

theorem edits_append {first second : Script} (accepted : first.rejection? = none) :
    (first ++ second).edits = first.edits ++ second.edits := by
  simp [append_def, append, accepted]

/-- Scripts in a row end with the first rejection of one of them. -/
theorem rejection?_sequence (scripts : List Script) :
    (sequence scripts).rejection? = scripts.findSome? rejection? := by
  induction scripts with
  | nil => rfl
  | cons script scripts ih =>
      change (script ++ sequence scripts).rejection? = _
      rw [rejection?_append, ih, List.findSome?_cons]
      cases script.rejection? <;> rfl

/-- Scripts in a row make all of their edits, if none of them is rejected. -/
theorem edits_sequence {scripts : List Script}
    (accepted : ∀ script ∈ scripts, script.rejection? = none) :
    (sequence scripts).edits = scripts.flatMap edits := by
  induction scripts with
  | nil => rfl
  | cons script scripts ih =>
      obtain ⟨first, rest⟩ := List.forall_mem_cons.1 accepted
      change (script ++ sequence scripts).edits = _
      rw [edits_append first, ih rest, List.flatMap_cons]

/-- A value that is stored by a script that is not rejected is written. -/
theorem store_eq_write {α : Type} {edit : α → Edit} {value : Except Rejection α}
    (accepted : (store edit value).rejection? = none) :
    ∃ x, value = .ok x ∧ store edit value = write (edit x) := by
  cases value with
  | error rejection => cases accepted
  | ok x => exact ⟨x, rfl, rfl⟩

/-- An argument that is there and not empty is used. -/
theorem slot_of_ne {arguments : List String} {index : Nat} {token : String}
    (given : arguments[index]? = some token) (filled : token ≠ "") (use : String → Script) :
    slot arguments index use = use token := by
  rw [slot, given]
  split <;> simp_all

/-- The only argument of a background is its color, unless it is empty. -/
theorem background_of_hex {hex : String} (filled : hex ≠ "") :
    background [hex] =
      store (fun value => .background (.all value)) (Token.color "background argument" hex) ++
        write (.flatten true) := by
  unfold background
  split <;> simp_all

/-- Three arguments of a background are its channels. -/
theorem background_of_three (red green blue : String) :
    background [red, green, blue] =
      write (.flatten true) ++ channel "background red channel" .red red ++
        channel "background green channel" .green green ++
        channel "background blue channel" .blue blue := by
  unfold background
  split <;> simp_all

/-- Every edit of a script satisfies a condition, unless the script ends with a rejection. -/
def AllEdits (P : Edit → Prop) (script : Script) : Prop :=
  script.rejection? = none → ∀ edit ∈ script.edits, P edit

namespace AllEdits

variable {P : Edit → Prop}

theorem done : AllEdits P Script.done := by
  intro _ edit mem
  cases mem

theorem reject (rejection : Rejection) : AllEdits P (Script.reject rejection) := by
  intro accepted
  cases accepted

theorem write {edit : Edit} (holds : P edit) : AllEdits P (Script.write edit) := by
  intro _ other mem
  rcases List.mem_singleton.1 mem with rfl
  exact holds

theorem store {α : Type} {edit : α → Edit} {value : Except Rejection α}
    (holds : ∀ x, value = .ok x → P (edit x)) : AllEdits P (Script.store edit value) := by
  cases value with
  | error rejection => exact reject rejection
  | ok x => exact write (holds x rfl)

theorem flag {edit : Bool → Edit} {token : String} (holds : ∀ value, P (edit value)) :
    AllEdits P (Script.flag edit token) := by
  intro _ other mem
  rcases List.mem_singleton.1 mem with rfl
  exact holds _

theorem append {first second : Script} (before : AllEdits P first) (after : AllEdits P second) :
    AllEdits P (first ++ second) := by
  intro accepted edit mem
  obtain ⟨accepted₁, accepted₂⟩ := rejection?_append_eq_none.1 accepted
  rw [edits_append accepted₁] at mem
  rcases List.mem_append.1 mem with mem | mem
  · exact before accepted₁ edit mem
  · exact after accepted₂ edit mem

theorem sequence {scripts : List Script} (each : ∀ script ∈ scripts, AllEdits P script) :
    AllEdits P (Script.sequence scripts) := by
  induction scripts with
  | nil => exact done
  | cons script scripts ih =>
      obtain ⟨first, rest⟩ := List.forall_mem_cons.1 each
      exact first.append (ih rest)

theorem single {label : String} {arguments : List String} {use : String → Script}
    (each : ∀ token, AllEdits P (use token)) :
    AllEdits P (Script.single label arguments use) := by
  unfold Script.single
  split
  · exact each _
  · exact reject _

theorem slot {arguments : List String} {index : Nat} {use : String → Script}
    (each : ∀ token, AllEdits P (use token)) :
    AllEdits P (Script.slot arguments index use) := by
  unfold Script.slot
  split
  · exact done
  · exact done
  · exact each _

end AllEdits

end Script

end ImageRequest

import ImageRequest.Proofs.Script
import Mathlib.Tactic.ByContra

/-!
# Too many arguments

Every setting but one accepts a limited number of arguments (`Setting.most?`). More of them are
rejected before any of them is read.
-/

namespace ImageRequest

namespace Script

theorem single_of_length_ne {label : String} {arguments : List String} {use : String → Script}
    (other : arguments.length ≠ 1) :
    single label arguments use = .reject (.invalidArguments label arguments) := by
  unfold single
  split
  · exact absurd rfl other
  · rfl

theorem background_eq_reject {arguments : List String} (one : arguments.length ≠ 1)
    (three : arguments.length ≠ 3) :
    background arguments = .reject (.invalidArguments "background" arguments) := by
  unfold background
  split
  · exact absurd rfl one
  · exact absurd rfl one
  · exact absurd rfl three
  · rfl

end Script

namespace Setting

/-- The greatest number of arguments that a setting accepts, if there is one. -/
def most? : Setting → Option Nat
  | resize => some 8
  | size => some 7
  | gravity => some 3
  | extend => some 4
  | crop => some 5
  | padding => some 4
  | trim => some 4
  | background => some 3
  | watermark => some 7
  | skipProcessing => none
  | _ => some 1

open Script in
/-- More arguments are rejected before anything is written. -/
theorem script_eq_reject (now : Int) {setting : Setting} {arguments : List String} {most : Nat}
    (limited : setting.most? = some most) (many : most < arguments.length) :
    ∃ label, setting.script now arguments = .reject (.invalidArguments label arguments) := by
  have other : most = 1 → arguments.length ≠ 1 := by omega
  cases arguments with
  | nil => cases many
  | cons first rest =>
      cases setting with
      | skipProcessing => cases limited
      | size =>
          cases limited
          exact ⟨_, if_pos many⟩
      | resize | extend | crop | trim | watermark =>
          cases limited
          exact ⟨_, if_pos (Nat.lt_of_succ_lt_succ many)⟩
      | gravity =>
          cases limited
          have refused : Placement.ofTokens (first :: rest) =
              .error (.invalidArguments "gravity" (first :: rest)) :=
            if_pos (Nat.lt_of_succ_lt_succ many)
          exact ⟨_, congrArg (store Edit.gravity) refused⟩
      | padding =>
          cases limited
          exact ⟨_, if_pos (by simpa using many)⟩
      | background =>
          cases limited
          refine ⟨_, background_eq_reject (fun one => ?_) fun three => ?_⟩ <;> omega
      | _ =>
          cases limited
          exact ⟨_, single_of_length_ne (other rfl)⟩

theorem length_le_of_accepted (now : Int) (setting : Setting) {arguments : List String} {most : Nat}
    (limited : setting.most? = some most)
    (accepted : (setting.script now arguments).rejection? = none) : arguments.length ≤ most := by
  by_contra many
  obtain ⟨label, rejected⟩ := script_eq_reject now limited (Nat.lt_of_not_le many)
  rw [rejected] at accepted
  cases accepted

theorem not_lt_length_of_accepted (now : Int) (setting : Setting) {first : String}
    {rest : List String} {most : Nat} (limited : setting.most? = some (most + 1))
    (accepted : (setting.script now (first :: rest)).rejection? = none) : ¬ most < rest.length :=
  Nat.not_lt.2 (Nat.le_of_succ_le_succ (length_le_of_accepted now setting limited accepted))

end Setting

end ImageRequest

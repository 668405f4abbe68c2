import ImageRequest.Handler
import ImageRequest.Options.Edit

/-!
# Scripts

A script is what a handler comes to, as a list of things to do: edits in order, warnings, and at the
end possibly a rejection. The edits made before a rejection stand. A script does not see the options
it is run on, so a handler that acts as a script on all options is rejected for a reason that is
settled before any options are looked at.

Scripts follow one another by `++`, which drops what comes after a rejection.
-/

namespace ImageRequest

/-- Edits, warnings, and the rejection that ends them, if any. -/
structure Script where
  edits : List Edit
  warnings : List Warning
  rejection? : Option Rejection
deriving Repr, DecidableEq

namespace Script

/-- The script that does nothing. -/
def done : Script :=
  { edits := [], warnings := [], rejection? := none }

/-- Make one edit. -/
def write (edit : Edit) : Script :=
  { edits := [edit], warnings := [], rejection? := none }

/-- Give some warnings. -/
def warn (warnings : List Warning) : Script :=
  { edits := [], warnings, rejection? := none }

/-- End with a rejection. -/
def reject (rejection : Rejection) : Script :=
  { edits := [], warnings := [], rejection? := some rejection }

/-- Make the edit for a value that was read, or end with the rejection of its token. -/
def store {α : Type} (edit : α → Edit) : Except Rejection α → Script
  | .ok value => write (edit value)
  | .error rejection => reject rejection

/-- Make the edit for a truth value, with a warning if the token is none. -/
def flag (edit : Bool → Edit) (token : String) : Script :=
  { edits := [edit (Token.bool token)], warnings := Token.boolWarnings token, rejection? := none }

/-- One script after another. -/
def append (first second : Script) : Script :=
  match first.rejection? with
  | some _ => first
  | none =>
    { edits := first.edits ++ second.edits
      warnings := first.warnings ++ second.warnings
      rejection? := second.rejection? }

instance : Append Script := ⟨append⟩

/-- Several scripts, one after another. -/
def sequence (scripts : List Script) : Script :=
  scripts.foldr (· ++ ·) done

/-- Run a script. -/
def run (script : Script) (options : Options) : Outcome :=
  { options := Edit.applyAll script.edits options
    warnings := script.warnings
    rejection? := script.rejection? }

theorem append_def (first second : Script) : first ++ second = first.append second := rfl

@[simp] theorem done_append (script : Script) : done ++ script = script := rfl

@[simp] theorem append_done (script : Script) : script ++ done = script := by
  obtain ⟨edits, warnings, rejection?⟩ := script
  cases rejection? <;> simp only [append_def, append, done, List.append_nil]

/-- A truth value is written after the warning for its token. -/
theorem flag_eq (edit : Bool → Edit) (token : String) :
    flag edit token = warn (Token.boolWarnings token) ++ write (edit (Token.bool token)) := by
  rw [append_def, append, warn, write, List.append_nil]
  rfl

theorem append_assoc (first second third : Script) :
    first ++ second ++ third = first ++ (second ++ third) := by
  obtain ⟨edits, warnings, rejection?⟩ := first
  cases rejection? with
  | some rejection => rfl
  | none =>
    obtain ⟨edits', warnings', rejection'?⟩ := second
    cases rejection'? <;> simp only [append_def, append, List.append_assoc]

@[simp] theorem usedPresets_run (script : Script) (options : Options) :
    (script.run options).options.usedPresets = options.usedPresets := by
  simp [run]

end Script

end ImageRequest

import ImageRequest.Setting.Script

/-!
# How scripts of settings are composed

The script of every setting is put together from five kinds of scripts: doing nothing, one edit, a
rejection, a truth value, and two scripts in a row. A property of scripts that these have or keep is
therefore a property of everything that a setting does, whether it is rejected or not.

The one drawn from it here is that settings only ever warn about truth values. Warnings about
presets come from runs alone.
-/

namespace ImageRequest

namespace Script

/-- Scripts that are put together from the elementary ones. -/
inductive Composed : Script → Prop
  | done : Composed Script.done
  | write (edit : Edit) : Composed (Script.write edit)
  | reject (rejection : Rejection) : Composed (Script.reject rejection)
  | flag (edit : Bool → Edit) (token : String) : Composed (Script.flag edit token)
  | append {first second : Script} :
    Composed first → Composed second → Composed (first ++ second)

namespace Composed

theorem store {α : Type} (edit : α → Edit) (value : Except Rejection α) :
    Composed (Script.store edit value) := by
  cases value with
  | error rejection => exact reject rejection
  | ok value => exact write (edit value)

theorem sequence {scripts : List Script} (each : ∀ script ∈ scripts, Composed script) :
    Composed (Script.sequence scripts) := by
  induction scripts with
  | nil => exact done
  | cons script scripts ih =>
      obtain ⟨first, rest⟩ := List.forall_mem_cons.1 each
      exact first.append (ih rest)

theorem single {label : String} {arguments : List String} {use : String → Script}
    (each : ∀ token, Composed (use token)) : Composed (Script.single label arguments use) := by
  unfold Script.single
  split
  · exact each _
  · exact reject _

theorem slot {arguments : List String} {index : Nat} {use : String → Script}
    (each : ∀ token, Composed (use token)) : Composed (Script.slot arguments index use) := by
  unfold Script.slot
  split
  · exact done
  · exact done
  · exact each _

theorem pixels (label : String) (edit : Nat → Edit) (arguments : List String) :
    Composed (Script.pixels label edit arguments) :=
  single fun _ => store _ _

theorem switch (label : String) (edit : Bool → Edit) (arguments : List String) :
    Composed (Script.switch label edit arguments) :=
  single fun token => flag edit token

theorem amount (label : String) (edit : Float → Edit) (arguments : List String) :
    Composed (Script.amount label edit arguments) :=
  single fun _ => store _ _

theorem extend (arguments : List String) : Composed (Script.extend arguments) := by
  unfold Script.extend
  split
  · exact reject _
  · rename_i enabled rest
    split
    · exact reject _
    · refine append (flag _ enabled) ?_
      split
      · exact done
      · unfold extensionGravity
        split
        · exact reject _
        · refine append (write _) ?_
          split
          · exact reject _
          · exact done

theorem size (arguments : List String) : Composed (Script.size arguments) := by
  unfold Script.size
  split
  · exact reject _
  · refine append (append (append ?_ ?_) ?_) ?_
    · exact slot fun token => pixels _ _ [token]
    · exact slot fun token => pixels _ _ [token]
    · exact slot fun token => switch _ _ [token]
    · exact slot fun _ => extend (arguments.drop 3)

theorem resize (arguments : List String) : Composed (Script.resize arguments) := by
  unfold Script.resize
  split
  · exact reject _
  · rename_i rest
    split
    · exact reject _
    · exact append (slot fun _ => single fun _ => store _ _) (size rest)

theorem crop (arguments : List String) : Composed (Script.crop arguments) := by
  unfold Script.crop
  split
  · exact reject _
  · split
    · exact reject _
    · refine append (store _ _) ?_
      split
      · exact done
      · refine append (store _ _) ?_
        split
        · exact done
        · exact store _ _

theorem padding (arguments : List String) : Composed (Script.padding arguments) := by
  unfold Script.padding
  split
  · exact reject _
  · refine append (append (append (append (append (write _) ?_) ?_) ?_) ?_) (write _)
    · exact slot fun _ => store _ _
    · exact slot fun _ => store _ _
    · exact slot fun _ => store _ _
    · exact slot fun _ => store _ _

theorem trim (arguments : List String) : Composed (Script.trim arguments) := by
  unfold Script.trim
  split
  · exact reject _
  · split
    · exact reject _
    · refine append (append (append (store _ _) ?_) ?_) ?_
      · exact slot fun _ => store _ _
      · exact slot fun token => flag _ token
      · exact slot fun token => flag _ token

theorem background (arguments : List String) : Composed (Script.background arguments) := by
  unfold Script.background
  split
  · exact write _
  · exact append (store _ _) (write _)
  · exact append (append (append (write _) (store _ _)) (store _ _)) (store _ _)
  · exact reject _

theorem watermark (arguments : List String) : Composed (Script.watermark arguments) := by
  unfold Script.watermark
  split
  · exact reject _
  · split
    · exact reject _
    · refine append (append (append (append (store _ _) ?_) ?_) ?_) ?_
      · refine slot fun token => ?_
        unfold position
        split
        · exact write _
        · exact store _ _
      · exact slot fun _ => store _ _
      · exact slot fun _ => store _ _
      · exact slot fun _ => store _ _

theorem expires (now : Int) (arguments : List String) :
    Composed (Script.expires now arguments) := by
  refine single fun token => ?_
  split
  · exact reject _
  · split
    · exact reject _
    · exact done

theorem skipProcessing (arguments : List String) : Composed (Script.skipProcessing arguments) := by
  refine sequence fun script mem => ?_
  obtain ⟨token, -, rfl⟩ := List.mem_map.1 mem
  exact store _ _

end Composed

end Script

open Script in
/-- The script of every setting is composed of elementary ones, at any time. -/
theorem Setting.composed_script (now : Int) (setting : Setting) (arguments : List String) :
    (setting.script now arguments).Composed := by
  cases setting with
  | resize => exact .resize arguments
  | size => exact .size arguments
  | resizingType => exact .single fun _ => .store _ _
  | width => exact .pixels _ _ arguments
  | height => exact .pixels _ _ arguments
  | minWidth => exact .pixels _ _ arguments
  | minHeight => exact .pixels _ _ arguments
  | dpr => exact .single fun _ => .store _ _
  | enlarge => exact .switch _ _ arguments
  | extend => exact .extend arguments
  | gravity => exact .store _ _
  | crop => exact .crop arguments
  | trim => exact .trim arguments
  | padding => exact .padding arguments
  | autoRotate => exact .switch _ _ arguments
  | rotate => exact .single fun _ => .store _ _
  | background => exact .background arguments
  | blur => exact .amount _ _ arguments
  | sharpen => exact .amount _ _ arguments
  | watermark => exact .watermark arguments
  | stripMetadata => exact .switch _ _ arguments
  | stripColorProfile => exact .switch _ _ arguments
  | quality => exact .single fun _ => .store _ _
  | maxBytes => exact .single fun _ => .store _ _
  | format => exact .single fun _ => .store _ _
  | skipProcessing => exact .skipProcessing arguments
  | cacheBuster => exact .single fun _ => .write _
  | expires => exact .expires now arguments
  | filename => exact .single fun _ => .write _

/-! ### Warnings -/

/-- The preset that a warning says has been used before. -/
def Warning.repeated? : Warning → Option String
  | .notBoolean _ => none
  | .presetAlreadyUsed name => some name

theorem Token.repeated?_boolWarnings {token : String} :
    ∀ warning ∈ boolWarnings token, warning.repeated? = none := by
  intro warning mem
  rw [boolWarnings] at mem
  split at mem
  · cases mem
  · rw [List.mem_singleton] at mem
    rw [mem]
    rfl

theorem Script.warnings_append_subset {first second : Script} :
    (first ++ second).warnings ⊆ first.warnings ++ second.warnings := by
  rw [append_def, append]
  split
  · exact List.subset_append_left _ _
  · exact fun _ mem => mem

/-- A script that is composed of elementary ones warns about truth values only. -/
theorem Script.Composed.repeated?_eq_none {script : Script} (composed : script.Composed) :
    ∀ warning ∈ script.warnings, warning.repeated? = none := by
  induction composed with
  | done => exact nofun
  | write edit => exact nofun
  | reject rejection => exact nofun
  | flag edit token => exact Token.repeated?_boolWarnings
  | append _ _ before after =>
      intro warning mem
      rcases List.mem_append.1 (warnings_append_subset mem) with mem | mem
      · exact before warning mem
      · exact after warning mem

end ImageRequest

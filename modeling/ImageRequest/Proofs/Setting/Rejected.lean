import ImageRequest.Proofs.Gravity.Grammar
import ImageRequest.Proofs.Presets.Plain
import ImageRequest.Proofs.Resolver.Gravity

/-!
# Gravities after a rejection

The settings that place something do so at their end: once a placement has been read, nothing is
left that could go wrong. The gravities of the options are therefore the same after a rejected
setting as before it, with one exception. An extension refuses the smart anchor after it was
written, so that this anchor stays behind (`gravity_run_of_rejected`).
-/

namespace ImageRequest

/-- Why an extension refuses the smart anchor. -/
abbrev Rejection.smartExtension : Rejection := .unsupportedAnchor "extend" .smart

namespace Placement

/-- A placement is refused for the number of its tokens or for one of them. -/
theorem ofTokens_eq_error {tokens : List String} {rejection : Rejection}
    (refused : ofTokens tokens = .error rejection) :
    rejection = .invalidArguments "gravity" tokens ∨
      ∃ field token, rejection = .invalidValue field token := by
  cases ofTokens_eq_error_iff.1 refused with
  | count | arity => exact .inl rfl
  | anchor | x | y => exact .inr ⟨_, _, rfl⟩

theorem ne_smartExtension_of_ofTokens {tokens : List String} {rejection : Rejection}
    (refused : ofTokens tokens = .error rejection) : rejection ≠ .smartExtension := by
  rcases ofTokens_eq_error refused with rfl | ⟨field, token, rfl⟩ <;> exact nofun

/-- The smart anchor comes without offsets, so that the earlier ones stay. -/
theorem place_of_smart {tokens : List String} {placement : Placement}
    (read : ofTokens tokens = .ok placement) (smart : placement.anchor = .smart)
    (gravity : Gravity) : gravity.place placement = { gravity with anchor := .smart } := by
  obtain ⟨word, offsets, -, counted, readX, readY⟩ := exists_of_ofTokens read
  have none : offsets = [] := by
    simpa [Anchor.acceptsOffsetCount, smart] using counted
  subst none
  have omittedX : placement.x? = Option.none := (Except.ok.inj readX).symm
  have omittedY : placement.y? = Option.none := (Except.ok.inj readY).symm
  rw [Gravity.place, omittedX, omittedY, smart]
  rfl

end Placement

namespace Script

/-- The script places nothing and does not refuse the smart anchor of an extension. -/
structure Spares (script : Script) : Prop where
  places : ∀ edit ∈ script.edits, ∀ target : Target, target.placement? edit = none
  refuses : script.rejection? ≠ some .smartExtension

/-- If the script is rejected, the gravities are as they were, but for a smart anchor that an
extension has refused. -/
def LeavesGravities (script : Script) : Prop :=
  ∀ rejection, script.rejection? = some rejection → ∀ (target : Target) (options : Options),
    target.gravity (Edit.applyAll script.edits options) =
      if target = .extension ∧ rejection = .smartExtension then
        { target.gravity options with anchor := .smart }
      else target.gravity options

theorem edits_append_subset {first second : Script} :
    (first ++ second).edits ⊆ first.edits ++ second.edits := by
  rw [append_def, append]
  split
  · exact List.subset_append_left _ _
  · exact fun _ mem => mem

namespace Spares

theorem done : Spares Script.done := ⟨nofun, nofun⟩

theorem write {edit : Edit} (places : ∀ target : Target, target.placement? edit = none) :
    Spares (Script.write edit) := by
  refine ⟨fun other mem => ?_, nofun⟩
  rcases List.mem_singleton.1 mem with rfl
  exact places

theorem reject {rejection : Rejection} (other : rejection ≠ .smartExtension) :
    Spares (Script.reject rejection) :=
  ⟨nofun, fun same => other (Option.some.inj same)⟩

theorem invalidArguments (label : String) (arguments : List String) :
    Spares (Script.reject (.invalidArguments label arguments)) :=
  reject nofun

theorem flag {edit : Bool → Edit} {token : String}
    (places : ∀ value, ∀ target : Target, target.placement? (edit value) = none) :
    Spares (Script.flag edit token) := by
  refine ⟨fun other mem => ?_, nofun⟩
  rcases List.mem_singleton.1 mem with rfl
  exact places _

theorem store {α : Type} {edit : α → Edit} {field token : String} {value? : Option α}
    (places : ∀ value, ∀ target : Target, target.placement? (edit value) = none) :
    Spares (Script.store edit (Token.require field token value?)) := by
  cases value? with
  | none => exact reject nofun
  | some value => exact write (places value)

theorem append {first second : Script} (before : Spares first) (after : Spares second) :
    Spares (first ++ second) := by
  constructor
  · intro edit mem
    rcases List.mem_append.1 (edits_append_subset mem) with mem | mem
    · exact before.places edit mem
    · exact after.places edit mem
  · rw [rejection?_append]
    intro same
    rcases Option.or_eq_some_iff.1 same with same | ⟨-, same⟩
    · exact before.refuses same
    · exact after.refuses same

theorem slot {arguments : List String} {index : Nat} {use : String → Script}
    (each : ∀ token, Spares (use token)) : Spares (Script.slot arguments index use) := by
  unfold Script.slot
  split
  · exact done
  · exact done
  · exact each _

theorem leavesGravities {script : Script} (spares : Spares script) : LeavesGravities script := by
  intro rejection rejected target options
  have other : rejection ≠ .smartExtension := fun same => spares.refuses (same ▸ rejected)
  have nothing : target.placements script.edits = [] :=
    List.filterMap_eq_nil_iff.2 fun edit mem => spares.places edit mem target
  rw [Target.gravity_applyAll, nothing, if_neg fun both => other both.2]
  rfl

end Spares

namespace LeavesGravities

/-- A script that spares the gravities may come first. -/
theorem append {first second : Script} (before : Spares first) (after : LeavesGravities second) :
    LeavesGravities (first ++ second) := by
  intro rejection rejected target options
  cases early : first.rejection? with
  | some cause =>
      have whole : first ++ second = first := by simp [append_def, Script.append, early]
      rw [whole] at rejected ⊢
      exact before.leavesGravities rejection rejected target options
  | none =>
      rw [rejection?_append, early, Option.none_or] at rejected
      have nothing : target.placements first.edits = [] :=
        List.filterMap_eq_nil_iff.2 fun edit mem => before.places edit mem target
      have same : target.gravity (Edit.applyAll first.edits options) = target.gravity options := by
        rw [Target.gravity_applyAll, nothing]
        rfl
      rw [edits_append early, Edit.applyAll_append, after rejection rejected, same]

/-- A placement is stored as a whole or not at all. -/
theorem place (edit : Placement → Edit) (tokens : List String) :
    LeavesGravities (Script.store edit (Placement.ofTokens tokens)) := by
  cases read : Placement.ofTokens tokens with
  | ok placement => exact nofun
  | error cause =>
      exact (Spares.reject (Placement.ne_smartExtension_of_ofTokens read)).leavesGravities

/-- The exception: the smart anchor is written and then refused. -/
theorem extensionGravity (tokens : List String) :
    LeavesGravities (Script.extensionGravity tokens) := by
  unfold Script.extensionGravity
  cases read : Placement.ofTokens tokens with
  | error cause =>
      exact (Spares.reject (Placement.ne_smartExtension_of_ofTokens read)).leavesGravities
  | ok placement =>
      by_cases smart : placement.anchor = .smart
      · simp only [if_pos smart]
        intro rejection rejected target options
        have cause : Rejection.smartExtension = rejection := Option.some.inj rejected
        subst cause
        change target.gravity ((Edit.extension (.gravity placement)).apply options) = _
        cases target with
        | extension => exact Placement.place_of_smart read smart options.extension.gravity
        | result => rfl
        | crop => rfl
      · simp only [if_neg smart]
        exact nofun

theorem gravity (arguments : List String) : LeavesGravities (Script.gravity arguments) :=
  place .gravity arguments

theorem crop (arguments : List String) : LeavesGravities (Script.crop arguments) := by
  unfold Script.crop
  split
  · exact (Spares.invalidArguments _ _).leavesGravities
  · rename_i width rest
    split
    · exact (Spares.invalidArguments _ _).leavesGravities
    · refine append (.store fun value target => by cases target <;> rfl) ?_
      split
      · exact Spares.done.leavesGravities
      · rename_i height tokens _
        refine append (.store fun value target => by cases target <;> rfl) ?_
        split
        · exact Spares.done.leavesGravities
        · exact place _ tokens

theorem extend (arguments : List String) : LeavesGravities (Script.extend arguments) := by
  unfold Script.extend
  split
  · exact (Spares.invalidArguments _ _).leavesGravities
  · rename_i enabled rest
    split
    · exact (Spares.invalidArguments _ _).leavesGravities
    · refine append (.flag fun value target => by cases target <;> rfl) ?_
      split
      · exact Spares.done.leavesGravities
      · exact extensionGravity rest

/-- The extension is the last part of a size. -/
theorem size (arguments : List String) : LeavesGravities (Script.size arguments) := by
  unfold Script.size
  split
  · exact (Spares.invalidArguments _ _).leavesGravities
  · refine append (.append (.append ?_ ?_) ?_) ?_
    · exact .slot fun token => .store fun value target => by cases target <;> rfl
    · exact .slot fun token => .store fun value target => by cases target <;> rfl
    · exact .slot fun token => .flag fun value target => by cases target <;> rfl
    · unfold Script.slot
      split
      · exact Spares.done.leavesGravities
      · exact Spares.done.leavesGravities
      · exact extend (arguments.drop 3)

theorem resize (arguments : List String) : LeavesGravities (Script.resize arguments) := by
  unfold Script.resize
  split
  · exact (Spares.invalidArguments _ _).leavesGravities
  · rename_i type rest
    split
    · exact (Spares.invalidArguments _ _).leavesGravities
    · refine append ?_ (size rest)
      exact .slot fun token => .store fun value target => by cases target <;> rfl

end LeavesGravities

end Script

namespace Setting

/-- The settings that can place something. -/
def places : List Setting :=
  [gravity, crop, extend, size, resize]

theorem leavesGravities_script (now : Int) {setting : Setting} (placing : setting ∈ places)
    (arguments : List String) : (setting.script now arguments).LeavesGravities := by
  simp only [places, List.mem_cons, List.not_mem_nil, or_false] at placing
  rcases placing with rfl | rfl | rfl | rfl | rfl
  · exact .gravity arguments
  · exact .crop arguments
  · exact .extend arguments
  · exact .size arguments
  · exact .resize arguments

end Setting

namespace Presets

/-- After a setting that can place something was rejected, the gravities are as they were before it,
but for the extension if the rejection says that it cannot take the smart anchor: it has taken it,
with the offsets that were there. -/
theorem gravity_run_of_rejected (presets : Presets) (now : Int) {directive : Directive}
    {setting : Setting} (known : Keyword.ofName? directive.name = some (.setting setting))
    (placing : setting ∈ Setting.places) {options : Options} {rejection : Rejection}
    (rejected : (presets.run now [directive] options).rejection? = some rejection)
    (target : Target) :
    target.gravity (presets.run now [directive] options).options =
      if target = .extension ∧ rejection = .smartExtension then
        { target.gravity options with anchor := .smart }
      else target.gravity options := by
  rw [run_setting_singleton known] at rejected ⊢
  exact setting.leavesGravities_script now placing directive.arguments rejection rejected target
    options

/-- A size and an extension whose first offset is negative. -/
def northOutside : Directive :=
  { name := "rs", arguments := ["fill", "300", "200", "1", "1", "no", "-1"] }

/-- The offset is refused, and the extension stays where it was, although it was switched on. -/
theorem gravity_run_northOutside :
    Keyword.ofName? northOutside.name = some (.setting .resize) ∧
      Setting.resize ∈ Setting.places ∧
      (empty.run 0 [northOutside] (Options.start true true true [])).rejection? =
        some (.invalidValue "gravity X" "-1") ∧
      ∀ target : Target,
        target.gravity (empty.run 0 [northOutside] (Options.start true true true [])).options =
          .at .center := by
  have known : Keyword.ofName? northOutside.name = some (.setting .resize) := by decide
  have placing : Setting.resize ∈ Setting.places := by decide
  have rejected : (empty.run 0 [northOutside] (Options.start true true true [])).rejection? =
      some (.invalidValue "gravity X" "-1") := by
    rw [run_setting_singleton known]
    decide +kernel
  refine ⟨known, placing, rejected, fun target => ?_⟩
  rw [gravity_run_of_rejected empty 0 known placing rejected target, if_neg fun both => absurd both.2 nofun]
  cases target <;> rfl

/-- An extension that is refused for its smart anchor has moved from the center to it. -/
theorem gravity_run_extendAt_smart :
    Keyword.ofName? (extendAt .smart).name = some (.setting .extend) ∧
      (empty.run 0 [extendAt .smart] (Options.start true true true [])).rejection? =
        some .smartExtension ∧
      Target.extension.gravity (Options.start true true true []) = .at .center ∧
      Target.extension.gravity
        (empty.run 0 [extendAt .smart] (Options.start true true true [])).options = .at .smart ∧
      Gravity.at .smart ≠ .at .center := by
  have known : Keyword.ofName? (extendAt .smart).name = some (.setting .extend) := by decide
  rw [run_setting_singleton known]
  exact ⟨known, by decide +kernel, rfl, by decide +kernel, by decide⟩

end Presets

end ImageRequest

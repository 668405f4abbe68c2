import ImageRequest.Proofs.Presets.Nesting
import ImageRequest.Proofs.Script
import Mathlib.Data.List.Basic

/-!
# Runs without presets

The handler of a directive that does not ask for presets acts as a script (`Setting.runs_handle`),
which is fixed by the name of the directive, its arguments and the time. So is a whole agenda of
such directives: running it is running their scripts in a row (`run_eq_run_sequence`), on whatever
options.

What can be seen of a run apart from its options is therefore the same on all options, although the
handlers see these and some of them look at them. In particular, whether a directive is rejected
does not depend on the directives before it, as long as these are not rejected themselves.
-/

namespace ImageRequest

namespace Script

/-- A joined script is run part by part. -/
theorem run_append (first second : Script) (options : Options) :
    (first ++ second).run options = (first.run options).andThen second.run := by
  rw [append_def, append]
  cases rejected : first.rejection? with
  | some rejection => exact (Outcome.andThen_of_some rejected _).symm
  | none =>
      rw [Outcome.andThen_of_none (by exact rejected), run, Edit.applyAll_append]
      rfl

end Script

/-- What a directive does that asks for no presets. -/
def Directive.script (now : Int) (directive : Directive) : Script :=
  match Keyword.ofName? directive.name with
  | some (.setting setting) => setting.script now directive.arguments
  | _ => .reject (.unknownDirective directive.name)

namespace Presets

variable {presets : Presets} {now : Int} {directive : Directive} {agenda : List Directive}
  {options : Options}

/-- A directive that asks for no presets runs its script, and the agenda goes on after it. -/
theorem run_plain (plain : Keyword.ofName? directive.name ≠ some .preset) :
    presets.run now (directive :: agenda) options =
      ((directive.script now).run options).andThen (presets.run now agenda) := by
  rw [Directive.script]
  cases known : Keyword.ofName? directive.name with
  | none =>
      rw [run_unknown known]
      exact (Outcome.andThen_of_some rfl _).symm
  | some keyword =>
      cases keyword with
      | setting setting => exact run_setting known
      | preset => exact absurd known plain

theorem run_singleton (plain : Keyword.ofName? directive.name ≠ some .preset) :
    presets.run now [directive] options = (directive.script now).run options := by
  rw [run_plain plain, andThen_run_nil]

/-- Running directives that ask for no presets is running their scripts in a row. -/
theorem run_eq_run_sequence
    (plain : ∀ directive ∈ agenda, Keyword.ofName? directive.name ≠ some .preset) :
    presets.run now agenda options =
      (Script.sequence (agenda.map (Directive.script now))).run options := by
  induction agenda generalizing options with
  | nil => exact run_nil
  | cons directive agenda ih =>
      obtain ⟨first, rest⟩ := List.forall_mem_cons.1 plain
      change _ = (directive.script now ++ Script.sequence (agenda.map _)).run options
      rw [run_plain first, Script.run_append]
      exact Outcome.andThen_congr (ih rest)

theorem rejection?_run
    (plain : ∀ directive ∈ agenda, Keyword.ofName? directive.name ≠ some .preset) :
    (presets.run now agenda options).rejection? =
      agenda.findSome? fun directive => (directive.script now).rejection? := by
  rw [run_eq_run_sequence plain]
  change (Script.sequence (agenda.map (Directive.script now))).rejection? = _
  rw [Script.rejection?_sequence, List.findSome?_map]
  rfl

/-- A run that is not rejected makes the edits of all its directives. -/
theorem options_run
    (plain : ∀ directive ∈ agenda, Keyword.ofName? directive.name ≠ some .preset)
    (accepted : ∀ directive ∈ agenda, (directive.script now).rejection? = none) :
    (presets.run now agenda options).options =
      Edit.applyAll (agenda.flatMap fun directive => (directive.script now).edits) options := by
  have all : ∀ script ∈ agenda.map (Directive.script now), script.rejection? = none := by
    simpa using accepted
  rw [run_eq_run_sequence plain, Script.run, Script.edits_sequence all, List.flatMap_map]

/-- A directive that asks for no presets is rejected for the same reason on all options, or on none,
and warns of the same. Whether several of them are run without rejection can be told from each of
them alone, on any options; and if not, their run ends with the rejection of the first one that is
rejected alone. -/
theorem rejection?_run_eq_findSome? (presets : Presets) (now : Int) :
    (∀ directive : Directive, Keyword.ofName? directive.name ≠ some .preset →
      ∀ options other : Options,
        (presets.run now [directive] options).rejection? =
          (presets.run now [directive] other).rejection? ∧
        (presets.run now [directive] options).warnings =
          (presets.run now [directive] other).warnings) ∧
    (∀ agenda : List Directive,
      (∀ directive ∈ agenda, Keyword.ofName? directive.name ≠ some .preset) →
      ∀ options baseline : Options,
        ((presets.run now agenda options).rejection? = none ↔
          ∀ directive ∈ agenda, (presets.run now [directive] baseline).rejection? = none) ∧
        (presets.run now agenda options).rejection? =
          agenda.findSome? fun directive =>
            (presets.run now [directive] baseline).rejection?) := by
  constructor
  · intro directive plain options other
    rw [run_singleton plain, run_singleton plain]
    exact ⟨rfl, rfl⟩
  · intro agenda plain options baseline
    have alone : ∀ directive ∈ agenda, (presets.run now [directive] baseline).rejection? =
        (directive.script now).rejection? := by
      intro directive mem
      rw [run_singleton (plain directive mem)]
      rfl
    have first : (presets.run now agenda options).rejection? =
        agenda.findSome? fun directive => (presets.run now [directive] baseline).rejection? := by
      rw [rejection?_run plain, ← List.head?_filterMap, ← List.head?_filterMap,
        List.filterMap_congr alone]
    refine ⟨?_, first⟩
    rw [first, List.findSome?_eq_none_iff]

/-- A directive for an extension at an anchor. -/
def extendAt (anchor : Anchor) : Directive :=
  { name := "ex", arguments := ["1", anchor.token] }

/-- Options with an extension whose gravity is smart, which only a rejected directive leaves. -/
def smartlyExtended : Options :=
  { Options.start true true true [] with extension := { enabled := true, gravity := .at .smart } }

/-- Another anchor is accepted where the stored one is smart, just as it is elsewhere, and the smart
anchor is rejected behind it just as it is alone. -/
theorem rejection?_run_extendAt :
    (∀ directive ∈ [extendAt .north, extendAt .smart, extendAt .center],
      Keyword.ofName? directive.name ≠ some .preset) ∧
      (empty.run 0 [extendAt .north] smartlyExtended).rejection? = none ∧
      (empty.run 0 [extendAt .north, extendAt .smart, extendAt .center]
        smartlyExtended).rejection? = some (.unsupportedAnchor "extend" .smart) := by
  have plain : ∀ directive ∈ [extendAt .north, extendAt .smart, extendAt .center],
      Keyword.ofName? directive.name ≠ some .preset := by decide
  obtain ⟨alone, together⟩ := rejection?_run_eq_findSome? empty 0
  have north : (empty.run 0 [extendAt .north] (Options.start false false false [.png])).rejection? =
      none := by
    rw [run_singleton (by decide)]
    decide
  have smart : (empty.run 0 [extendAt .smart] (Options.start false false false [.png])).rejection? =
      some (.unsupportedAnchor "extend" .smart) := by
    rw [run_singleton (by decide)]
    decide
  obtain ⟨same, -⟩ := alone (extendAt .north) (by decide) smartlyExtended _
  obtain ⟨-, first⟩ := together _ plain smartlyExtended _
  refine ⟨plain, same.trans north, first.trans ?_⟩
  rw [List.findSome?_cons, north, List.findSome?_cons, smart]

end Presets

end ImageRequest

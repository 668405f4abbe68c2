import ImageRequest.Proofs.Presets.Nesting

/-!
# What the check of presets means

The check runs every preset once from the same options, where requests run presets inside of each
other, from any options, and pass over those that were used before. Both come down to the same
condition on single directives, `Presets.accepts`, which looks at no options at all.

A run that is not rejected has made each directive of its own agenda, whatever was passed over on
the way. As the check gives each preset an agenda of its own, no directive escapes it.
-/

namespace ImageRequest

namespace Presets

/-- A directive is acceptable at a given time: it is a setting whose script ends without rejection,
or it asks for known presets only. -/
def accepts (presets : Presets) (now : Int) (directive : Directive) : Bool :=
  match Keyword.ofName? directive.name with
  | none => false
  | some (.setting setting) => (setting.script now directive.arguments).rejection?.isNone
  | some .preset => directive.arguments.all presets.contains

/-- Every directive of every preset is acceptable. -/
def AllAccepted (presets : Presets) (now : Int) : Prop :=
  ∀ name directives, presets.find? name = some directives →
    ∀ directive ∈ directives, presets.accepts now directive

variable {presets : Presets} {now : Int} {directive : Directive} {agenda : List Directive}
  {options : Options}

theorem accepts_setting {setting : Setting}
    (known : Keyword.ofName? directive.name = some (.setting setting)) :
    presets.accepts now directive ↔
      (setting.script now directive.arguments).rejection? = none := by
  simp only [accepts, known, Option.isNone_iff_eq_none]

theorem accepts_preset (known : Keyword.ofName? directive.name = some .preset) :
    presets.accepts now directive ↔
      ∀ name ∈ directive.arguments, presets.contains name = true := by
  simp only [accepts, known, List.all_eq_true]

/-- A request for presets is acceptable when its first name is known and the rest is acceptable. -/
theorem accepts_preset_cons {name : String} {names : List String}
    (known : Keyword.ofName? directive.name = some .preset)
    (arguments : directive.arguments = name :: names) :
    presets.accepts now directive ↔
      presets.contains name = true ∧
        presets.accepts now { directive with arguments := names } := by
  have known' : Keyword.ofName? { directive with arguments := names }.name = some .preset := known
  rw [accepts_preset known, accepts_preset known', arguments]
  exact List.forall_mem_cons

theorem find?_eq_some_of_contains {name : String} (known : presets.contains name = true) :
    ∃ directives, presets.find? name = some directives := by
  rw [contains, Std.TreeMap.contains_iff_mem, Std.TreeMap.mem_iff_isSome_getElem?] at known
  exact Option.isSome_iff_exists.1 known

theorem mem_toList {name : String} {directives : List Directive} :
    (name, directives) ∈ presets.toList ↔ presets.find? name = some directives :=
  Std.TreeMap.mem_toList_iff_getElem?_eq_some

theorem allAccepted_iff :
    presets.AllAccepted now ↔
      ∀ entry ∈ presets.toList, ∀ directive ∈ entry.2, presets.accepts now directive := by
  constructor
  · rintro all ⟨name, directives⟩ mem
    exact all name directives (mem_toList.1 mem)
  · intro all name directives found
    exact all (name, directives) (mem_toList.2 found)

instance (presets : Presets) (now : Int) : Decidable (presets.AllAccepted now) :=
  decidable_of_iff _ allAccepted_iff.symm

/-! ### Acceptable directives are run without rejection -/

/-- Where all presets are acceptable, so is every run of acceptable directives. -/
theorem rejection?_run_eq_none (all : presets.AllAccepted now)
    (accepted : ∀ directive ∈ agenda, presets.accepts now directive) :
    (presets.run now agenda options).rejection? = none := by
  revert accepted
  fun_induction presets.run now agenda options with
  | case1 options => exact fun _ => rfl
  | case2 options directive agenda unknown =>
      intro accepted
      have impossible := accepted directive List.mem_cons_self
      simp [accepts, unknown] at impossible
  | case3 options directive agenda setting known outcome rejection rejected =>
      intro accepted
      have ends := (accepts_setting known).1 (accepted directive List.mem_cons_self)
      simp [outcome, ends] at rejected
  | case4 options directive agenda setting known outcome went ih =>
      intro accepted
      exact ih fun later mem => accepted later (List.mem_cons_of_mem _ mem)
  | case5 options directive agenda known arguments ih =>
      intro accepted
      exact ih fun later mem => accepted later (List.mem_cons_of_mem _ mem)
  | case6 options directive agenda known name names arguments missing =>
      intro accepted
      obtain ⟨contained, _⟩ :=
        (accepts_preset_cons known arguments).1 (accepted directive List.mem_cons_self)
      obtain ⟨directives, found⟩ := find?_eq_some_of_contains contained
      rw [missing] at found
      cases found
  | case7 options directive agenda known name names arguments later directives found used ih =>
      intro accepted
      obtain ⟨_, rest⟩ :=
        (accepts_preset_cons known arguments).1 (accepted directive List.mem_cons_self)
      refine ih fun next mem => ?_
      rcases List.mem_cons.1 mem with rfl | mem
      · exact rest
      · exact accepted next (List.mem_cons_of_mem _ mem)
  | case8 options directive agenda known name names arguments later directives found fresh ih =>
      intro accepted
      obtain ⟨_, rest⟩ :=
        (accepts_preset_cons known arguments).1 (accepted directive List.mem_cons_self)
      refine ih fun next mem => ?_
      -- the list of the preset is acceptable because all of them are
      rcases List.mem_append.1 mem with inside | mem
      · exact all name directives found next inside
      · rcases List.mem_cons.1 mem with rfl | mem
        · exact rest
        · exact accepted next (List.mem_cons_of_mem _ mem)

/-! ### A run without rejection made every directive of its agenda -/

/-- Every directive of an agenda whose run is not rejected is acceptable, also where the lists of
its presets were passed over. -/
theorem accepts_of_run (accepted : (presets.run now agenda options).rejection? = none) :
    ∀ directive ∈ agenda, presets.accepts now directive := by
  revert accepted
  fun_induction presets.run now agenda options with
  | case1 options => simp
  | case2 options directive agenda unknown => intro accepted; simp at accepted
  | case3 options directive agenda setting known outcome rejection rejected =>
      intro accepted
      simp [rejected] at accepted
  | case4 options directive agenda setting known outcome went ih =>
      intro accepted
      refine List.forall_mem_cons.2 ⟨?_, ih accepted⟩
      exact (accepts_setting known).2 (by simpa [outcome] using went)
  | case5 options directive agenda known arguments ih =>
      intro accepted
      refine List.forall_mem_cons.2 ⟨?_, ih accepted⟩
      exact (accepts_preset known).2 (by simp [arguments])
  | case6 options directive agenda known name names arguments missing =>
      intro accepted
      simp at accepted
  | case7 options directive agenda known name names arguments later directives found used ih =>
      intro accepted
      obtain ⟨rest, others⟩ := List.forall_mem_cons.1 (ih accepted)
      refine List.forall_mem_cons.2 ⟨?_, others⟩
      exact (accepts_preset_cons known arguments).2 ⟨contains_of_find? found, rest⟩
  | case8 options directive agenda known name names arguments later directives found fresh ih =>
      intro accepted
      obtain ⟨_, after⟩ := List.forall_mem_append.1 (ih accepted)
      obtain ⟨rest, others⟩ := List.forall_mem_cons.1 after
      refine List.forall_mem_cons.2 ⟨?_, others⟩
      exact (accepts_preset_cons known arguments).2 ⟨contains_of_find? found, rest⟩

/-! ### The check -/

/-- The check of several presets finds nothing exactly when each of them runs without rejection. -/
theorem checkEntries_eq_none_iff (entries : List (String × List Directive)) :
    (presets.checkEntries now options entries).2 = none ↔
      ∀ entry ∈ entries, (presets.run now entry.2 (options.use entry.1)).rejection? = none := by
  induction entries with
  | nil => simp [checkEntries]
  | cons entry entries ih =>
      obtain ⟨name, directives⟩ := entry
      rw [List.forall_mem_cons, ← ih, checkEntries]
      cases rejected : (presets.run now directives (options.use name)).rejection? with
      | some rejection => simp
      | none => simp

theorem allAccepted_of_check (passed : (presets.check now options).2 = none) :
    presets.AllAccepted now := by
  refine allAccepted_iff.2 fun entry mem => ?_
  have ran := (checkEntries_eq_none_iff presets.toList).1 passed entry mem
  exact accepts_of_run ran

theorem check_of_allAccepted (all : presets.AllAccepted now) :
    (presets.check now options).2 = none := by
  refine (checkEntries_eq_none_iff presets.toList).2 fun entry mem => ?_
  exact rejection?_run_eq_none all (allAccepted_iff.1 all entry mem)

/-- Where all presets are acceptable, known presets are run without rejection on any options. -/
theorem rejection?_runPresets_eq_none (all : presets.AllAccepted now) {names : List String}
    (known : ∀ name ∈ names, presets.contains name = true) (options : Options) :
    (presets.runPresets now names options).rejection? = none := by
  have isPreset : Keyword.ofName? Keyword.preset.name = some .preset := by decide
  refine rejection?_run_eq_none all fun directive mem => ?_
  rw [List.mem_singleton] at mem
  subst mem
  exact (accepts_preset isPreset).2 known

theorem rejection?_defaults_eq_none {resolver : Resolver} (all : resolver.presets.AllAccepted now)
    (headers : Headers) : (resolver.defaults now headers).rejection? = none := by
  rw [Resolver.defaults]
  by_cases defined : resolver.presets.contains Resolver.defaultPreset
  · rw [if_pos defined]
    exact rejection?_runPresets_eq_none all (by simpa using defined) _
  · rw [if_neg defined]

/-- The check passes exactly when every directive of every preset is acceptable on its own. Once it
has passed, and at the same time, known presets are run without rejection on any options whatever,
and so is the preset that requests begin with, for any headers. -/
theorem check_eq_none_iff (presets : Presets) (now : Int) (baseline : Options) :
    ((presets.check now baseline).2 = none ↔ presets.AllAccepted now) ∧
    ((presets.check now baseline).2 = none →
      (∀ (options : Options) (names : List String),
        (∀ name ∈ names, presets.contains name = true) →
          (presets.runPresets now names options).rejection? = none) ∧
      (∀ (resolver : Resolver) (headers : Headers), resolver.presets = presets →
        (resolver.defaults now headers).rejection? = none)) := by
  refine ⟨⟨allAccepted_of_check, check_of_allAccepted⟩, fun passed => ?_⟩
  have all := allAccepted_of_check passed
  constructor
  · intro options names known
    exact rejection?_runPresets_eq_none all known options
  · rintro resolver headers rfl
    exact rejection?_defaults_eq_none all headers

/-- A circle of presets passes the check, and requests may name its presets in any order. -/
theorem check_circle :
    (circle.check 0 (Options.start true true true [])).2 = none ∧
      (∀ name ∈ ["b", "a", "b"], circle.contains name = true) ∧
      (circle.runPresets 0 ["b", "a", "b"] (Options.start true true true [])).rejection? =
        none := by
  have statement := check_eq_none_iff circle 0 (Options.start true true true [])
  have passed : (circle.check 0 (Options.start true true true [])).2 = none :=
    statement.1.2 (by decide)
  have known : ∀ name ∈ ["b", "a", "b"], circle.contains name = true := by decide
  exact ⟨passed, known, (statement.2 passed).1 _ _ known⟩

end Presets

end ImageRequest

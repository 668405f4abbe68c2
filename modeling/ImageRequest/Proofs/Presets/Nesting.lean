import ImageRequest.Proofs.Presets.Run

/-!
# Nested expansion of presets

A run can also be read as a recursion of three functions: a list of directives runs its directives,
a request for presets runs the lists of its names, and a list that stands inside of another one is
run by a given function. That function allows a fixed number of levels, and where they are used up
it gives nothing. Beside the outcome, the recursion keeps account of every preset whose list it ran.

`expandDirectives_nested_unused` says that as many levels as there are unused presets are always
enough, that the outcome is that of the run, and that no list is run twice.
-/

namespace ImageRequest

/-- An outcome, and the presets whose lists were run on the way to it, in order. -/
structure Account where
  outcome : Outcome
  expanded : List String
deriving Repr, DecidableEq

/-- Go on from an account, unless it ended with a rejection. -/
def Account.andThen (account : Account) (next : Options → Option Account) : Option Account :=
  match account.outcome.rejection? with
  | some _ => some account
  | none =>
    (next account.outcome.options).map fun later =>
      { outcome := later.outcome.after account.outcome.warnings
        expanded := account.expanded ++ later.expanded }

namespace Presets

/-- Run the lists of some presets by a given function. -/
def expandNames (presets : Presets) (inner : List Directive → Options → Option Account) :
    List String → Options → Option Account
  | [], options =>
    some { outcome := { options, warnings := [], rejection? := none }, expanded := [] }
  | name :: names, options =>
    match presets.find? name with
    | none =>
      some
        { outcome := { options, warnings := [], rejection? := some (.unknownPreset name) }
          expanded := [] }
    | some directives =>
      if name ∈ options.usedPresets then
        Account.andThen
          { outcome := { options, warnings := [.presetAlreadyUsed name], rejection? := none }
            expanded := [] }
          (presets.expandNames inner names)
      else
        (inner directives (options.use name)).bind fun account =>
          Account.andThen { account with expanded := name :: account.expanded }
            (presets.expandNames inner names)

/-- Run a directive, and the lists of presets that it asks for by a given function. -/
def expandDirective (presets : Presets) (now : Int)
    (inner : List Directive → Options → Option Account) (directive : Directive)
    (options : Options) : Option Account :=
  match Keyword.ofName? directive.name with
  | none =>
    some
      { outcome :=
          { options, warnings := [], rejection? := some (.unknownDirective directive.name) }
        expanded := [] }
  | some (.setting setting) =>
    some { outcome := (setting.script now directive.arguments).run options, expanded := [] }
  | some .preset => presets.expandNames inner directive.arguments options

/-- Run some directives, and the lists of presets that they ask for by a given function. -/
def expandDirectives (presets : Presets) (now : Int)
    (inner : List Directive → Options → Option Account) :
    List Directive → Options → Option Account
  | [], options =>
    some { outcome := { options, warnings := [], rejection? := none }, expanded := [] }
  | directive :: directives, options =>
    (presets.expandDirective now inner directive options).bind fun account =>
      account.andThen (presets.expandDirectives now inner directives)

/-- Run a list of directives with at most so many lists inside of each other, itself included. -/
def nested (presets : Presets) (now : Int) : Nat → List Directive → Options → Option Account
  | 0 => fun _ _ => none
  | levels + 1 => presets.expandDirectives now (presets.nested now levels)

/-! ### Accounts that agree with a run -/

/-- An account gives an outcome, and lists the presets that were used on the way from some used
presets to it: each once, all of them known, and none used before. -/
structure Accounts (presets : Presets) (used : List String) (outcome : Outcome)
    (account : Account) : Prop where
  outcome_eq : account.outcome = outcome
  used_eq : outcome.options.usedPresets = used ++ account.expanded
  nodup : account.expanded.Nodup
  fresh : ∀ name ∈ account.expanded, presets.contains name ∧ name ∉ used

theorem contains_of_find? {presets : Presets} {name : String} {directives : List Directive}
    (found : presets.find? name = some directives) : presets.contains name := by
  rw [contains, Std.TreeMap.contains_iff_mem, Std.TreeMap.mem_iff_isSome_getElem?]
  simp_all [find?]

theorem unused_append_le (presets : Presets) (used more : List String) :
    presets.unused (used ++ more) ≤ presets.unused used := by
  simp only [unused, ← List.countP_eq_length_filter]
  refine List.countP_mono_left fun name _ fresh => ?_
  simp_all

namespace Accounts

variable {presets : Presets} {used : List String}

theorem of_used_eq {outcome : Outcome} (same : outcome.options.usedPresets = used) :
    presets.Accounts used outcome { outcome, expanded := [] } where
  outcome_eq := rfl
  used_eq := by simp [same]
  nodup := List.nodup_nil
  fresh := by simp

theorem enter {name : String} {outcome : Outcome} {account : Account}
    (known : presets.contains name) (unused : name ∉ used)
    (inside : presets.Accounts (used ++ [name]) outcome account) :
    presets.Accounts used outcome { account with expanded := name :: account.expanded } where
  outcome_eq := inside.outcome_eq
  used_eq := by simp [inside.used_eq]
  nodup := by
    refine List.nodup_cons.2 ⟨fun again => ?_, inside.nodup⟩
    exact (inside.fresh name again).2 (by simp)
  fresh := by
    intro other mem
    rcases List.mem_cons.1 mem with rfl | mem
    · exact ⟨known, unused⟩
    · obtain ⟨isKnown, isFresh⟩ := inside.fresh other mem
      exact ⟨isKnown, fun old => isFresh (List.mem_append_left _ old)⟩

theorem andThen {first : Outcome} {account : Account} {second : Options → Outcome}
    {next : Options → Option Account} (initially : presets.Accounts used first account)
    (later : first.rejection? = none →
      ∃ account, next first.options = some account ∧
        presets.Accounts first.options.usedPresets (second first.options) account) :
    ∃ joined, account.andThen next = some joined ∧
      presets.Accounts used (first.andThen second) joined := by
  obtain rfl := initially.outcome_eq
  cases rejected : account.outcome.rejection? with
  | some rejection =>
      refine ⟨account, by simp [Account.andThen, rejected], ?_⟩
      rwa [Outcome.andThen_of_some rejected]
  | none =>
      obtain ⟨following, gives, after⟩ := later rejected
      refine ⟨_, by simp [Account.andThen, rejected, gives]; rfl, ?_⟩
      rw [Outcome.andThen_of_none rejected]
      constructor
      · simp [after.outcome_eq]
      · simp [after.used_eq, initially.used_eq]
      · refine List.nodup_append.2 ⟨initially.nodup, after.nodup, ?_⟩
        -- a preset of the second part is not among those used after the first part
        rintro name old other new rfl
        refine (after.fresh name new).2 ?_
        rw [initially.used_eq]
        exact List.mem_append_right _ old
      · intro name mem
        rcases List.mem_append.1 mem with old | new
        · exact initially.fresh name old
        · obtain ⟨known, fresh⟩ := after.fresh name new
          rw [initially.used_eq] at fresh
          exact ⟨known, fun before => fresh (List.mem_append_left _ before)⟩

end Accounts

/-! ### The recursion gives the run -/

variable {presets : Presets} {now : Int} {bound : Nat}
  {inner : List Directive → Options → Option Account}

/-- A function that runs lists as long as fewer presets than a bound are unused. -/
def RunsBelow (presets : Presets) (now : Int) (bound : Nat)
    (inner : List Directive → Options → Option Account) : Prop :=
  ∀ directives options, presets.unused options.usedPresets < bound →
    ∃ account, inner directives options = some account ∧
      presets.Accounts options.usedPresets (presets.run now directives options) account

theorem Accounts.unused_le {outcome : Outcome} {used : List String} {account : Account}
    (accounts : presets.Accounts used outcome account) :
    presets.unused outcome.options.usedPresets ≤ presets.unused used := by
  rw [accounts.used_eq]
  exact presets.unused_append_le used account.expanded

/-- Names are expanded as a directive for them is run. -/
theorem expandNames_accounts (below : presets.RunsBelow now bound inner) {word : String}
    (known : Keyword.ofName? word = some .preset) (names : List String) (options : Options)
    (within : presets.unused options.usedPresets ≤ bound) :
    ∃ account, presets.expandNames inner names options = some account ∧
      presets.Accounts options.usedPresets
        (presets.run now [{ name := word, arguments := names }] options) account := by
  induction names generalizing options with
  | nil =>
      have known' : Keyword.ofName? { name := word, arguments := [] : Directive }.name =
          some .preset := known
      refine ⟨_, rfl, ?_⟩
      rw [run_preset_nil known' rfl, run_nil]
      exact .of_used_eq rfl
  | cons name names ih =>
      have known' : Keyword.ofName?
          { name := word, arguments := name :: names : Directive }.name = some .preset := known
      rw [expandNames]
      cases found : presets.find? name with
      | none =>
          refine ⟨_, rfl, ?_⟩
          rw [run_preset_unknown known' rfl found]
          exact .of_used_eq rfl
      | some directives =>
          by_cases used : name ∈ options.usedPresets
          · have passed : presets.Accounts options.usedPresets
                { options, warnings := [.presetAlreadyUsed name], rejection? := none }
                { outcome :=
                    { options, warnings := [.presetAlreadyUsed name], rejection? := none }
                  expanded := [] } := .of_used_eq rfl
            simp only [if_pos used]
            rw [run_preset_used known' rfl found used]
            exact passed.andThen fun _ => ih options within
          · -- entering the preset leaves fewer presets unused, as its list demands
            have fewer : presets.unused (options.use name).usedPresets < bound :=
              Nat.lt_of_lt_of_le (unused_append_lt (mem_names_of_find? found) used) within
            obtain ⟨account, gives, inside⟩ := below directives (options.use name) fewer
            simp only [if_neg used, gives, Option.bind_some]
            rw [run_preset_fresh known' rfl found used, run_append]
            refine Accounts.andThen (inside.enter (contains_of_find? found) used) fun _ => ?_
            exact ih _ (Nat.le_trans inside.unused_le (Nat.le_of_lt fewer))

theorem expandDirective_accounts (below : presets.RunsBelow now bound inner)
    (directive : Directive) (options : Options)
    (within : presets.unused options.usedPresets ≤ bound) :
    ∃ account, presets.expandDirective now inner directive options = some account ∧
      presets.Accounts options.usedPresets (presets.run now [directive] options) account := by
  rw [expandDirective]
  cases known : Keyword.ofName? directive.name with
  | none =>
      refine ⟨_, rfl, ?_⟩
      rw [run_unknown known]
      exact .of_used_eq rfl
  | some keyword =>
      cases keyword with
      | setting setting =>
          refine ⟨_, rfl, ?_⟩
          rw [run_setting_singleton known]
          exact .of_used_eq (Script.usedPresets_run _ _)
      | preset => exact expandNames_accounts below known directive.arguments options within

theorem expandDirectives_accounts (below : presets.RunsBelow now bound inner)
    (directives : List Directive) (options : Options)
    (within : presets.unused options.usedPresets ≤ bound) :
    ∃ account, presets.expandDirectives now inner directives options = some account ∧
      presets.Accounts options.usedPresets (presets.run now directives options) account := by
  induction directives generalizing options with
  | nil =>
      refine ⟨_, rfl, ?_⟩
      rw [run_nil]
      exact .of_used_eq rfl
  | cons directive directives ih =>
      obtain ⟨account, gives, first⟩ := expandDirective_accounts below directive options within
      rw [expandDirectives, gives, Option.bind_some, run_cons]
      exact first.andThen fun _ => ih _ (Nat.le_trans first.unused_le within)

/-- So many levels are enough for lists that leave fewer presets unused. -/
theorem runsBelow_nested (presets : Presets) (now : Int) (levels : Nat) :
    presets.RunsBelow now levels (presets.nested now levels) := by
  induction levels with
  | zero => exact fun _ _ impossible => absurd impossible (Nat.not_lt_zero _)
  | succ levels ih =>
      exact fun directives options fewer =>
        expandDirectives_accounts ih directives options (Nat.le_of_lt_succ fewer)

/-- What the recursion gives is what the run gives, if it may go on long enough. -/
theorem run_eq_of_nested {levels : Nat} {directives : List Directive} {options : Options}
    {account : Account} (enough : presets.unused options.usedPresets < levels)
    (gives : presets.nested now levels directives options = some account) :
    presets.run now directives options = account.outcome := by
  obtain ⟨other, givesOther, accounts⟩ :=
    presets.runsBelow_nested now levels directives options enough
  rw [← accounts.outcome_eq, ← Option.some.inj (gives.symm.trans givesOther)]

/-- A result is the account of an outcome in which every list was run at most once: the presets
whose lists were run are all different, known, and new, and the used presets grow by just these. -/
def ExpandsOnce (presets : Presets) (options : Options) (outcome : Outcome)
    (result : Option Account) : Prop :=
  ∃ expanded : List String,
    result = some { outcome, expanded } ∧
    expanded.Nodup ∧
    (∀ name ∈ expanded, presets.contains name = true ∧ name ∉ options.usedPresets) ∧
    outcome.options.usedPresets = options.usedPresets ++ expanded ∧
    (options.usedPresets.Nodup → outcome.options.usedPresets.Nodup)

theorem Accounts.expandsOnce {options : Options} {outcome : Outcome} {account : Account}
    {result : Option Account} (gives : result = some account)
    (accounts : presets.Accounts options.usedPresets outcome account) :
    presets.ExpandsOnce options outcome result := by
  obtain rfl := accounts.outcome_eq
  refine ⟨account.expanded, gives, accounts.nodup, accounts.fresh, accounts.used_eq, ?_⟩
  intro distinct
  rw [accounts.used_eq]
  refine List.nodup_append.2 ⟨distinct, accounts.nodup, ?_⟩
  rintro name old other new rfl
  exact (accounts.fresh name new).2 old

/-- For directives and for names alike, so many levels of lists inside of each other as there are
unused presets are enough: the recursion gives the outcome of the run, and runs no list twice. -/
theorem expandDirectives_nested_unused (presets : Presets) (now : Int) (options : Options) :
    (∀ directives : List Directive,
      presets.ExpandsOnce options (presets.run now directives options)
        (presets.expandDirectives now
          (presets.nested now (presets.unused options.usedPresets)) directives options)) ∧
    (∀ names : List String,
      presets.ExpandsOnce options (presets.runPresets now names options)
        (presets.expandNames
          (presets.nested now (presets.unused options.usedPresets)) names options)) := by
  have below := presets.runsBelow_nested now (presets.unused options.usedPresets)
  constructor
  · intro directives
    obtain ⟨account, gives, accounts⟩ :=
      expandDirectives_accounts below directives options (Nat.le_refl _)
    exact accounts.expandsOnce gives
  · intro names
    have known : Keyword.ofName? Keyword.preset.name = some .preset := by decide
    obtain ⟨account, gives, accounts⟩ :=
      expandNames_accounts below known names options (Nat.le_refl _)
    exact accounts.expandsOnce gives

/-- Two presets that ask for each other. -/
def circle : Presets :=
  (empty.insert "a" [{ name := "w", arguments := ["10"] }, { name := "pr", arguments := ["b"] }]).insert
    "b" [{ name := "h", arguments := ["20"] }, { name := "pr", arguments := ["a"] }]

/-- From either end of a circle both presets are used, each once. -/
theorem nodup_usedPresets_runPresets_circle :
    (Options.start true true true []).usedPresets.Nodup ∧
      (circle.runPresets 0 ["a"] (Options.start true true true [])).options.usedPresets.Nodup ∧
      (circle.runPresets 0 ["a"] (Options.start true true true [])).options.usedPresets =
        ["a", "b"] := by
  have distinct : (Options.start true true true []).usedPresets.Nodup := List.nodup_nil
  obtain ⟨expanded, gives, -, -, used, keeps⟩ :=
    (expandDirectives_nested_unused circle 0 (Options.start true true true [])).2 ["a"]
  have both : (circle.expandNames (circle.nested 0 (circle.unused [])) ["a"]
      (Options.start true true true [])).map Account.expanded = some ["a", "b"] := by decide
  have same : some expanded = some ["a", "b"] := by
    rw [← both]
    exact (congrArg (Option.map Account.expanded) gives).symm
  refine ⟨distinct, keeps distinct, ?_⟩
  rw [used, Option.some.inj same]
  rfl

end Presets

end ImageRequest

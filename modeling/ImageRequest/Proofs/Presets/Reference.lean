import ImageRequest.Proofs.Config.Validation
import ImageRequest.Proofs.Presets.Check
import ImageRequest.Proofs.Presets.Repeated
import ImageRequest.Proofs.Resolver.Separator

/-!
# Presets that can be asked for

A preset may have a name that no segment can hold: one with a slash in it, or one with the separator
in it, which is read as several names. All other presets can be asked for where requests name
presets only. In a directive that is so with every separator but the three that occur in `pr` (in
the names of the keyword there is a `pr` at the beginning of both),
`exists_asksFor_iff_of_validate`.
-/

namespace ImageRequest

/-! ### Names of the keyword -/

namespace Text

variable {sep piece : List Char}

theorem not_delimited_cons_iff {c : Char} :
    ¬ Delimited sep (c :: piece) ↔
      sep <+: c :: (piece ++ sep.dropLast) ∨ ¬ Delimited sep piece := by
  simp only [Delimited, not_not, List.cons_append, List.infix_cons_iff]

end Text

/-- A separator that begins in `pr`, whether it ends there or behind it, and in `preset` as well,
ends in `pr`. -/
theorem Keyword.mem_of_not_delimited {separator : List Char} (some : separator ≠ [])
    (short : ¬ Text.Delimited separator ['p', 'r'])
    (long : ¬ Text.Delimited separator ['p', 'r', 'e', 's', 'e', 't']) :
    String.ofList separator ∈ ["p", "r", "pr"] := by
  obtain ⟨d, ds, rfl⟩ := List.exists_cons_of_ne_nil some
  simp only [Text.not_delimited_cons_iff, Text.delimited_nil some, not_true, or_false,
    List.cons_prefix_cons] at short long
  rcases short with ⟨rfl, short⟩ | ⟨rfl, short⟩
  · cases ds with
    | nil => decide
    | cons c ds =>
        obtain ⟨rfl, short⟩ := List.cons_prefix_cons.1 short
        cases ds with
        | nil => decide
        | cons c ds =>
            have behind : c :: ds <+: 'p' :: ('r' :: c :: ds).dropLast := short
            obtain ⟨rfl, -⟩ := List.cons_prefix_cons.1 behind
            simp at long
  · cases ds with
    | nil => decide
    | cons c ds =>
        have behind : c :: ds <+: 'r' :: (c :: ds).dropLast := short
        obtain ⟨rfl, -⟩ := List.cons_prefix_cons.1 behind
        simp at long

/-- A name of the keyword for presets is read back from a segment, unless the separator is one that
occurs in the shorter of the two. -/
theorem Keyword.exists_delimited_preset_iff {separator : String} (some : separator ≠ "") :
    (∃ name ∈ preset.names, Text.Delimited separator.toList name.toList) ↔
      separator ∉ ["p", "r", "pr"] := by
  constructor
  · rintro ⟨name, mem, delimited⟩ among
    have none : ∀ separator ∈ ["p", "r", "pr"], ∀ name ∈ preset.names,
        ¬ Text.Delimited separator.toList name.toList := by decide
    exact none separator among name mem delimited
  · intro other
    by_contra none
    have short : ¬ Text.Delimited separator.toList ['p', 'r'] :=
      fun delimited => none ⟨"pr", by decide, delimited⟩
    have long : ¬ Text.Delimited separator.toList ['p', 'r', 'e', 's', 'e', 't'] :=
      fun delimited => none ⟨"preset", by decide, delimited⟩
    have among := mem_of_not_delimited (mt String.toList_eq_nil_iff.1 some) short long
    rw [String.ofList_toList] at among
    exact other among

theorem Keyword.mem_names_of_ofName? {keyword : Keyword} {name : String}
    (known : ofName? name = some keyword) : name ∈ keyword.names := by
  rw [ofName?] at known
  have found := List.find?_some known
  exact of_decide_eq_true found

/-! ### Segments -/

namespace Directive

variable {separator name : String}

/-- A segment is read as a directive that asks for one preset. -/
def AsksFor (separator name segment : String) : Prop :=
  '/' ∉ segment.toList ∧ ∃ directive, ofSegment? separator segment = some directive ∧
    Keyword.ofName? directive.name = some .preset ∧ directive.arguments = [name]

/-- A segment names one preset, where it can only name presets. -/
def NamesOnly (separator name segment : String) : Prop :=
  '/' ∉ segment.toList ∧ Text.split separator segment = [name]

/-- A preset can be asked for by a directive exactly if neither the separator nor a slash stands in
its name and the separator leaves a name of the keyword to be read. -/
theorem exists_asksFor_iff (some : separator ≠ "") (noSlash : '/' ∉ separator.toList) :
    (∃ segment, AsksFor separator name segment) ↔
      '/' ∉ name.toList ∧ ¬ separator.toList <:+: name.toList ∧ separator ∉ ["p", "r", "pr"] := by
  rw [← Keyword.exists_delimited_preset_iff some]
  constructor
  · rintro ⟨segment, slash, directive, read, known, arguments⟩
    obtain ⟨pieces, -⟩ := ofSegment?_eq_some_iff.1 read
    rw [arguments, Text.split_eq_iff some] at pieces
    obtain ⟨⟨delimited, whole⟩, rfl⟩ := pieces
    refine ⟨fun within => slash ?_, whole, _, Keyword.mem_names_of_ofName? known, delimited⟩
    exact Text.mem_intercalate_of_mem (by simp) within
  · rintro ⟨slash, whole, word, mem, delimited⟩
    refine ⟨segment separator { name := word, arguments := [name] }, ?_, _,
      (ofSegment?_segment_iff some (by simp)).2 ⟨delimited, whole⟩,
      Keyword.ofName?_of_mem_names mem, rfl⟩
    refine not_mem_segment noSlash (List.forall_mem_cons.2 ⟨?_, List.forall_mem_singleton.2 slash⟩)
    exact Keyword.slash_not_mem_of_mem_names mem

/-- A preset can be named where only presets can exactly if neither the separator nor a slash stands
in its name, which is the segment then. -/
theorem exists_namesOnly_iff (some : separator ≠ "") :
    (∃ segment, NamesOnly separator name segment) ↔
      '/' ∉ name.toList ∧ ¬ separator.toList <:+: name.toList := by
  constructor
  · rintro ⟨segment, slash, pieces⟩
    obtain ⟨whole, rfl⟩ := (Text.split_eq_iff some).1 pieces
    rw [String.intercalate_singleton] at slash
    exact ⟨slash, whole⟩
  · rintro ⟨slash, whole⟩
    exact ⟨name, slash, Text.split_of_not_infix whole⟩

end Directive

open Directive in
/-- With the separator of a valid configuration, a preset can be asked for by a directive exactly if
neither the separator nor a slash stands in its name and the separator is none of the three that
occur in `pr`, and it can be named where only presets can exactly if neither the separator nor a
slash stands in its name. A preset of the configuration that is asked for alone is used, whatever
the options are. -/
theorem exists_asksFor_iff_of_validate {files : Files} {now : Int} {config : Config}
    (valid : config.validate files now = .ok ()) :
    let separator := config.processing.separator
    (∀ name : String,
      ((∃ segment, AsksFor separator name segment) ↔
        '/' ∉ name.toList ∧ ¬ separator.toList <:+: name.toList ∧ separator ∉ ["p", "r", "pr"]) ∧
      ((∃ segment, NamesOnly separator name segment) ↔
        '/' ∉ name.toList ∧ ¬ separator.toList <:+: name.toList)) ∧
    ∀ presets, config.processing.loadPresets files = .ok presets →
      ∀ name, presets.contains name = true →
        ∀ word, Keyword.ofName? word = some .preset → ∀ options : Options,
          let outcome := presets.run now [{ name := word, arguments := [name] }] options
          outcome.rejection? = none ∧ name ∈ outcome.options.usedPresets := by
  intro separator
  obtain ⟨⟨resolver, made⟩, -, some, noSlash⟩ := (config.validate_eq_ok_iff files now).1 valid
  refine ⟨fun name => ⟨exists_asksFor_iff some noSlash, exists_namesOnly_iff some⟩, ?_⟩
  intro presets loaded name defined word known options outcome
  obtain ⟨presets', -, loaded', passed, -⟩ := Resolver.ofConfig_eq_ok.1 made
  obtain rfl : presets' = presets := Except.ok.inj (loaded'.symm.trans loaded)
  have accepted : outcome.rejection? = none := by
    refine Presets.rejection?_run_eq_none (Presets.allAccepted_of_check passed) ?_
    refine List.forall_mem_singleton.2 ((Presets.accepts_preset (by exact known)).2 ?_)
    exact List.forall_mem_singleton.2 defined
  exact ⟨accepted,
    (Presets.isUsed_of_run_preset known accepted name (List.mem_singleton_self name)).2⟩

/-- A configuration with a single preset, which sets the width. -/
def Config.widthPreset (name : String) : Config :=
  { processing := { presets := [name ++ "=w:10"] } }

/-- The preset of the configuration. -/
def Presets.width (name : String) : Presets :=
  empty.insert name [{ name := "w", arguments := ["10"] }]

theorem Config.validate_widthPreset {name : String}
    (loaded : (widthPreset name).processing.loadPresets (fun _ => .error .notFound) =
      .ok (.width name)) (accepted : (Presets.width name).AllAccepted 0) :
    (widthPreset name).validate (fun _ => .error .notFound) 0 = .ok () := by
  have presets := ProcessingConfig.checkPresets_eq_ok_iff.2
    ⟨_, loaded, Presets.check_of_allAccepted accepted, rfl⟩
  have separator : ({} : ProcessingConfig).checkSeparator = .ok () := by decide
  exact validate_eq_ok_iff_checks.2 ⟨rfl, separator, presets, rfl⟩

open Directive in
/-- Blanks within the name of a preset are no obstacle. -/
theorem exists_asksFor_blank :
    (Config.widthPreset "a b").validate (fun _ => .error .notFound) 0 = .ok () ∧
      (∃ segment, AsksFor ":" "a b" segment) ∧ (∃ segment, NamesOnly ":" "a b" segment) ∧
      (Presets.width "a b").contains "a b" = true ∧
      "a b" ∈ ((Presets.width "a b").run 0 [{ name := "pr", arguments := ["a b"] }]
        (Options.start true true true [])).options.usedPresets := by
  have loaded : (Config.widthPreset "a b").processing.loadPresets (fun _ => .error .notFound) =
      .ok (.width "a b") := by rfl
  have valid := Config.validate_widthPreset loaded (by decide)
  obtain ⟨referred, used⟩ := exists_asksFor_iff_of_validate valid
  obtain ⟨directive, first⟩ := referred "a b"
  refine ⟨valid, directive.2 (by decide), first.2 (by decide), by decide, ?_⟩
  exact (used _ loaded "a b" (by decide) "pr" (by decide) _).2

open Directive in
/-- A preset with the separator in its name is loaded and checked, and there is no segment to ask
for it. -/
theorem not_exists_asksFor_colon :
    (Config.widthPreset "a:b").validate (fun _ => .error .notFound) 0 = .ok () ∧
      (Config.widthPreset "a:b").processing.separator = ":" ∧
      (Config.widthPreset "a:b").processing.loadPresets (fun _ => .error .notFound) =
        .ok (.width "a:b") ∧
      (Presets.width "a:b").contains "a:b" = true ∧
      (¬ ∃ segment, AsksFor ":" "a:b" segment) ∧ ¬ ∃ segment, NamesOnly ":" "a:b" segment := by
  have loaded : (Config.widthPreset "a:b").processing.loadPresets (fun _ => .error .notFound) =
      .ok (.width "a:b") := by rfl
  have within : ":".toList <:+: "a:b".toList := by decide
  refine ⟨Config.validate_widthPreset loaded (by decide), rfl, loaded, by decide, ?_, ?_⟩
  · exact fun referred => ((exists_asksFor_iff (by decide) (by decide)).1 referred).2.1 within
  · exact fun named => ((exists_namesOnly_iff (by decide)).1 named).2 within

end ImageRequest

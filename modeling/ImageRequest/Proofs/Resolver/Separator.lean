import ImageRequest.Proofs.Config.Validation
import ImageRequest.Proofs.Resolver.Modes
import ImageRequest.Proofs.Resolver.Segments

/-!
# Separators and the names of directives

A configuration is valid with every separator that is not empty and has no slash in it. The
separator may still clash with the words of a request: a name is read back from the segments that it
begins exactly if it is delimited by the separator, and the segment `plain` is left to the source
exactly if the separator does not occur in it (`readsName_iff_of_validate`). With the separator `i`
neither is the case of `width` and of `plain`.

Names of one keyword that are read back can take each other's place in every path.
-/

namespace ImageRequest

theorem Keyword.slash_not_mem_of_mem_names {keyword : Keyword} {name : String}
    (mem : name ∈ keyword.names) : '/' ∉ name.toList := by
  have all : ∀ keyword ∈ Keyword.all, ∀ name ∈ keyword.names, '/' ∉ name.toList := by decide
  exact all keyword keyword.mem_all name mem

/-- By which of its names a directive is asked for makes no difference to a run. -/
theorem Presets.run_cons_congr_name (presets : Presets) (now : Int) {keyword : Keyword}
    {name other : String} (known : Keyword.ofName? name = some keyword)
    (known' : Keyword.ofName? other = some keyword) (arguments : List String)
    (agenda : List Directive) (options : Options) :
    presets.run now ({ name, arguments } :: agenda) options =
      presets.run now ({ name := other, arguments } :: agenda) options := by
  cases keyword with
  | setting setting => rw [run_setting known, run_setting known']
  | preset =>
      rw [run_cons, run_cons presets now { name := other, arguments },
        run_preset_eq_runPresets presets now known, run_preset_eq_runPresets presets now known']

namespace Directive

/-- The arguments can be written with a separator and read back: there are some, and none of their
characters is one of the separator or a slash. -/
structure PlainArguments (separator : String) (arguments : List String) : Prop where
  given : arguments ≠ []
  disjoint : ∀ argument ∈ arguments, ∀ c ∈ argument.toList, c ∉ separator.toList ∧ c ≠ '/'

/-- A name is read back from its segments, whatever plain arguments stand behind it. -/
def ReadsName (separator name : String) : Prop :=
  ∀ arguments, PlainArguments separator arguments →
    ofSegment? separator (segment separator { name, arguments }) = some { name, arguments }

/-- The marker of a plain source is left to the source, with all that follows it, whatever stands in
front of it. -/
def LeavesMarker (separator : String) : Prop :=
  ∀ before rest : List String,
    Source.plainMarker :: rest <:+ (leading separator (before ++ Source.plainMarker :: rest)).2

variable {separator name : String}

theorem PlainArguments.separated (some : separator ≠ "") {arguments : List String}
    (plain : PlainArguments separator arguments) :
    Text.Separated separator.toList ((name :: arguments).map String.toList) ↔
      Text.Delimited separator.toList name.toList := by
  have more : arguments.map String.toList ≠ [] := by simpa using plain.given
  rw [List.map_cons, Text.separated_cons more]
  refine and_iff_left ?_
  obtain ⟨d, ds, begins⟩ := List.exists_cons_of_ne_nil (mt String.toList_eq_nil_iff.1 some)
  rw [begins]
  refine Text.separated_of_not_mem more (List.forall_mem_map.2 fun argument mem within => ?_)
  exact (plain.disjoint argument mem d within).1 (begins ▸ List.mem_cons_self)

theorem readsName_iff (some : separator ≠ "") :
    ReadsName separator name ↔ Text.Delimited separator.toList name.toList := by
  constructor
  · intro reads
    have empty : PlainArguments separator [""] := ⟨List.cons_ne_nil _ _, by simp⟩
    exact (empty.separated some).1 ((ofSegment?_segment_iff some empty.given).1 (reads _ empty))
  · intro delimited arguments plain
    exact (ofSegment?_segment_iff some plain.given).2 ((plain.separated some).2 delimited)

theorem leavesMarker_of_eq_none (none : ofSegment? separator Source.plainMarker = none) :
    LeavesMarker separator := by
  intro before rest
  induction before with
  | nil => rw [List.nil_append, leading, none]
  | cons segment before ih =>
      rw [List.cons_append, leading]
      cases ofSegment? separator segment with
      | none => exact (List.suffix_append before _).trans (List.suffix_cons segment _)
      | some directive => exact ih

theorem leavesMarker_iff (some : separator ≠ "") :
    LeavesMarker separator ↔ ¬ separator.toList <:+: Source.plainMarker.toList := by
  rw [← ofSegment?_eq_none_iff some]
  refine ⟨fun leaves => ?_, leavesMarker_of_eq_none⟩
  cases read : ofSegment? separator Source.plainMarker with
  | none => rfl
  | some directive =>
      have left := leaves [] []
      rw [List.nil_append, leading, read] at left
      cases List.suffix_nil.1 left

end Directive

namespace Resolver

/-- A directive among the others of a path can be asked for by either of two names. -/
def SameByName (resolver : Resolver) (name other : String) : Prop :=
  ∀ arguments, Directive.PlainArguments resolver.config.separator arguments →
    ∀ before after : List String,
      (∀ segment ∈ before, '/' ∉ segment.toList ∧
        Directive.ofSegment? resolver.config.separator segment ≠ none) →
      (∀ segment ∈ after, '/' ∉ segment.toList) →
      ∀ (now : Int) (headers : Headers),
        resolver.resolve now headers ("/" ++ "/".intercalate (before ++
            Directive.segment resolver.config.separator { name, arguments } :: after)) =
          resolver.resolve now headers ("/" ++ "/".intercalate (before ++
            Directive.segment resolver.config.separator { name := other, arguments } :: after))

variable {resolver : Resolver} {now : Int} {headers : Headers}

/-- A directive whose name is read back is run among the others of its path. -/
theorem resolve_segment (mode : resolver.config.onlyPresets = false)
    (some : resolver.config.separator ≠ "")
    (noSlash : '/' ∉ resolver.config.separator.toList) {name : String}
    (nameNoSlash : '/' ∉ name.toList)
    (reads : Directive.ReadsName resolver.config.separator name) {arguments : List String}
    (plain : Directive.PlainArguments resolver.config.separator arguments)
    {before after : List String}
    (directives : ∀ segment ∈ before, '/' ∉ segment.toList ∧
      Directive.ofSegment? resolver.config.separator segment ≠ none)
    (segments : ∀ segment ∈ after, '/' ∉ segment.toList) :
    let (later, rest) := Directive.leading resolver.config.separator after
    resolver.resolve now headers ("/" ++ "/".intercalate (before ++
        Directive.segment resolver.config.separator { name, arguments } :: after)) =
      resolver.complete
        ((resolver.defaults now headers).andThen (resolver.presets.run now
          (before.filterMap (Directive.ofSegment? resolver.config.separator) ++
            { name, arguments } :: later))) rest := by
  have slash : '/' ∉
      (Directive.segment resolver.config.separator { name, arguments }).toList := by
    refine Directive.not_mem_segment noSlash (List.forall_mem_cons.2 ⟨nameNoSlash, ?_⟩)
    exact fun argument mem within => (plain.disjoint argument mem '/' within).2 rfl
  have absent : ∀ segment ∈ before ++
      Directive.segment resolver.config.separator { name, arguments } :: after,
        '/' ∉ segment.toList :=
    List.forall_mem_append.2 ⟨fun segment mem => (directives segment mem).1,
      List.forall_mem_cons.2 ⟨slash, segments⟩⟩
  have given : "/".intercalate (before ++
      Directive.segment resolver.config.separator { name, arguments } :: after) ≠ "" := by
    refine Text.intercalate_ne_empty_of_mem (List.mem_append_right _ List.mem_cons_self) ?_
    exact Directive.ne_empty_of_ofSegment? some (by simp [reads arguments plain])
  have read := Directive.leading_cons (reads arguments plain)
    (Eq.refl (Directive.leading resolver.config.separator after))
  rw [resolve_intercalate mode (by simp) given (.slash _),
    Text.flatMap_split_of_not_mem (d := '/') rfl absent,
    resolveDirectives_append fun segment mem => (directives segment mem).2, read]

/-- Two names of one keyword that are read back can take each other's place. -/
theorem sameByName_of_readsName (mode : resolver.config.onlyPresets = false)
    (some : resolver.config.separator ≠ "") (noSlash : '/' ∉ resolver.config.separator.toList)
    {keyword : Keyword} {name other : String} (mem : name ∈ keyword.names)
    (mem' : other ∈ keyword.names)
    (reads : Directive.ReadsName resolver.config.separator name)
    (reads' : Directive.ReadsName resolver.config.separator other) :
    resolver.SameByName name other := by
  intro arguments plain before after directives segments now headers
  rw [resolve_segment mode some noSlash (Keyword.slash_not_mem_of_mem_names mem) reads plain
      directives segments,
    resolve_segment mode some noSlash (Keyword.slash_not_mem_of_mem_names mem') reads' plain
      directives segments]
  refine congrArg (resolver.complete · _) (Outcome.andThen_congr ?_)
  rw [Presets.run_append, Presets.run_append]
  exact Outcome.andThen_congr (resolver.presets.run_cons_congr_name now
    (Keyword.ofName?_of_mem_names mem) (Keyword.ofName?_of_mem_names mem') arguments _ _)

end Resolver

open Directive in
/-- Of a valid configuration, the separator and a name of a directive are such that the name is read
back from its segments exactly if the name is delimited by the separator. All names of a keyword
that are read back are equally good in the paths of requests. The marker of a plain source is no
directive, and then it is always left to the source, exactly if the separator does not occur in it.
-/
theorem readsName_iff_of_validate {files : Files} {now : Int} {config : Config}
    (valid : config.validate files now = .ok ()) :
    let separator := config.processing.separator
    (∀ keyword : Keyword, ∀ name ∈ keyword.names,
      (ReadsName separator name ↔ Text.Delimited separator.toList name.toList) ∧
      ∀ other ∈ keyword.names, ReadsName separator name → ReadsName separator other →
        ∀ resolver : Resolver, resolver.config = config.processing →
          resolver.config.onlyPresets = false → resolver.SameByName name other) ∧
    (ofSegment? separator Source.plainMarker = none ↔
      ¬ separator.toList <:+: Source.plainMarker.toList) ∧
    (LeavesMarker separator ↔ ¬ separator.toList <:+: Source.plainMarker.toList) := by
  intro separator
  obtain ⟨-, -, some, noSlash⟩ := (config.validate_eq_ok_iff files now).1 valid
  refine ⟨fun keyword name mem => ⟨readsName_iff some, ?_⟩, ofSegment?_eq_none_iff some,
    leavesMarker_iff some⟩
  intro other mem' reads reads' resolver configured mode
  have same : resolver.config.separator = separator := congrArg ProcessingConfig.separator configured
  rw [← same] at reads reads'
  exact resolver.sameByName_of_readsName mode (same ▸ some) (same ▸ noSlash) mem mem' reads reads'

/-- The usual separator clashes with no name. -/
example : ∀ keyword ∈ Keyword.all, ∀ name ∈ keyword.names,
    Text.Delimited ":".toList name.toList := by decide

/-- A configuration in which only the separator is set. -/
def Config.separatedBy (separator : String) : Config :=
  { processing := { separator } }

/-- What is set up from it. -/
def Resolver.separatedBy (separator : String) : Resolver :=
  { plain with config := (Config.separatedBy separator).processing }

open Directive in
/-- The separator `ll` occurs in no name, but behind `el` it is read too early. -/
theorem readsName_enlarge :
    (Config.separatedBy "ll").validate (fun _ => .error .notFound) 0 = .ok () ∧
      ReadsName "ll" "enlarge" ∧ ¬ ReadsName "ll" "el" ∧ LeavesMarker "ll" := by
  have valid : (Config.separatedBy "ll").validate (fun _ => .error .notFound) 0 = .ok () := by decide
  obtain ⟨names, -, marker⟩ := readsName_iff_of_validate valid
  have enlarge := (names (.setting .enlarge) "enlarge" (by decide)).1.2 (by decide)
  have el := mt (names (.setting .enlarge) "el" (by decide)).1.1 (by decide)
  exact ⟨valid, enlarge, el, marker.2 (by decide)⟩

open Directive in
/-- The separator `i` is valid, and yet it cuts the name `width` and the marker in two, so that a
path with the alias `w` goes through where the same one with `width` is rejected. -/
theorem not_readsName_width :
    (Config.separatedBy "i").validate (fun _ => .error .notFound) 0 = .ok () ∧
      "width" ∈ (Keyword.setting .width).names ∧ "w" ∈ (Keyword.setting .width).names ∧
      ofSegment? "i" (segment "i" { name := "width", arguments := ["10"] }) =
        some { name := "w", arguments := ["dth", "10"] } ∧
      ofSegment? "i" Source.plainMarker = some { name := "pla", arguments := ["n"] } ∧
      ¬ ReadsName "i" "width" ∧ ¬ LeavesMarker "i" ∧
      ¬ (Resolver.separatedBy "i").SameByName "width" "w" := by
  have arguments : PlainArguments "i" ["10"] := ⟨List.cons_ne_nil _ _, by simp⟩
  have read : ofSegment? "i" (segment "i" { name := "width", arguments := ["10"] }) =
      some { name := "w", arguments := ["dth", "10"] } := by decide
  refine ⟨by decide, by decide, by decide, read, by decide, ?_, ?_, ?_⟩
  · intro reads
    have different := read.symm.trans (reads ["10"] arguments)
    simp at different
  · intro leaves
    have left : [Source.plainMarker] <:+ (leading "i" [Source.plainMarker]).2 := leaves [] []
    revert left
    decide
  · intro same
    have known : Keyword.ofName? "w" = some (.setting .width) := by decide
    have rejected : ((Resolver.separatedBy "i").resolve 0 [] "/widthi10/YQ").result.isOk = false := by
      have agenda : (Resolver.separatedBy "i").agenda "/widthi10/YQ" =
          [{ name := "w", arguments := ["dth", "10"] }] := by decide
      rw [Resolver.resolve_eq_complete (by decide), agenda, Presets.run_setting_singleton known]
      rfl
    have accepted : ((Resolver.separatedBy "i").resolve 0 [] "/wi10/YQ").result.isOk = true := by
      have agenda : (Resolver.separatedBy "i").agenda "/wi10/YQ" =
          [{ name := "w", arguments := ["10"] }] := by decide
      rw [Resolver.resolve_eq_complete (by decide), agenda, Presets.run_setting_singleton known]
      decide +kernel
    have equal : (Resolver.separatedBy "i").resolve 0 [] "/widthi10/YQ" =
        (Resolver.separatedBy "i").resolve 0 [] "/wi10/YQ" :=
      same ["10"] arguments [] ["YQ"] nofun (by decide) 0 []
    rw [equal, accepted] at rejected
    cases rejected

end ImageRequest

import ImageRequest.Proofs.Presets.Check
import ImageRequest.Proofs.Presets.Definition
import ImageRequest.Proofs.Presets.Expansion
import ImageRequest.Proofs.Resolver.Gravity
import ImageRequest.Proofs.Resolver.Related
import ImageRequest.Proofs.Resolver.Segments

/-!
# Presets written out

A preset stands for the text that defines it. In a path, the segment that asks for the preset and
the value of its definition can take each other's place: both requests are refused for the same
reason, or both go through with the same address and the same options, except that the preset is one
more among those used (`resolve_preset_agree`).

The preset must not be asked for anywhere else, as then it would be passed over there in one of the
requests and not in the other.
-/

namespace ImageRequest

/-! ### Definitions -/

/-- What a line defines is read from its right side, without the blanks around it. -/
theorem PresetDefinition.leading_of_ofLine? {separator left right : String}
    {definition : PresetDefinition}
    (read : ofLine? separator (left ++ "=" ++ right) = .ok (some definition)) :
    Directive.leading separator (Text.split "/" (Text.trim right)) =
      (definition.directives, []) :=
  (ofLine?_append_eq_ok_some_iff.1 read).directives

/-! ### Runs -/

instance (asked : String → Prop) [DecidablePred asked] (directive : Directive) :
    Decidable (directive.AsksOnly asked) :=
  inferInstanceAs (Decidable (_ → ∀ preset ∈ directive.arguments, asked preset))

theorem Presets.askOnly_iff {presets : Presets} {asked : String → Prop} :
    presets.AskOnly asked ↔
      ∀ entry ∈ presets.toList, ∀ directive ∈ entry.2, directive.AsksOnly asked := by
  constructor
  · rintro only ⟨name, directives⟩ mem
    exact only name directives (mem_toList.1 mem)
  · intro only name directives found
    exact only (name, directives) (mem_toList.2 found)

instance (asked : String → Prop) [DecidablePred asked] (presets : Presets) :
    Decidable (presets.AskOnly asked) :=
  decidable_of_iff _ Presets.askOnly_iff.symm

/-- The first options have one more preset among those used, and are the same otherwise. -/
def Options.UsesAlso (name : String) (options other : Options) : Prop :=
  ∃ before after, other.usedPresets = before ++ after ∧
    options = other.withUsed (before ++ name :: after)

theorem Options.usesAlso_use (options : Options) (name : String) :
    (options.use name).UsesAlso name options :=
  ⟨options.usedPresets, [], (List.append_nil _).symm, rfl⟩

/-- It does not matter that a preset is used that is never asked for. -/
theorem Options.isKept_usesAlso (name : String) :
    IsKept (· ≠ name) (UsesAlso name) where
  apply := by
    rintro edit first second ⟨before, after, used, rfl⟩
    exact ⟨before, after, by rw [Edit.usedPresets_apply, used], edit.apply_withUsed _ _⟩
  use := by
    rintro preset first second - ⟨before, after, used, rfl⟩
    refine ⟨before, after ++ [preset], ?_, ?_⟩
    · rw [use, used, List.append_assoc]
    · simp only [use, withUsed, List.append_assoc, List.cons_append]
  mem_used := by
    rintro preset first second other ⟨before, after, used, rfl⟩
    simp [withUsed, used, other]

/-- A preset that is never asked for does not become used. -/
theorem Options.isKept_unused (name : String) :
    IsKept (· ≠ name) fun first second => first = second ∧ name ∉ second.usedPresets where
  apply := by
    rintro edit first second ⟨rfl, unused⟩
    exact ⟨rfl, by rwa [Edit.usedPresets_apply]⟩
  use := by
    rintro preset first second other ⟨rfl, unused⟩
    exact ⟨rfl, by simp [use, unused, other.symm]⟩
  mem_used := by
    rintro preset first second - ⟨rfl, -⟩
    rfl

namespace Presets

variable {presets : Presets} {now : Int} {name word : String}

/-- A preset that is asked for once can be asked for or be written out. -/
theorem run_preset_agree (known : Keyword.ofName? word = some .preset) {directives : List Directive}
    (found : presets.find? name = some directives) (inside : presets.AskOnly (· ≠ name))
    {before after : List Directive}
    (outside : ∀ directive ∈ before ++ after, directive.AsksOnly (· ≠ name)) {options : Options}
    (unused : name ∉ options.usedPresets) :
    (presets.run now (before ++ { name := word, arguments := [name] } :: after) options).Agree
      (Options.UsesAlso name) (presets.run now (before ++ (directives ++ after)) options) := by
  obtain ⟨outsideBefore, outsideAfter⟩ := List.forall_mem_append.1 outside
  rw [run_append, run_append]
  have start : (presets.run now before options).Agree _ (presets.run now before options) :=
    run_agree (Options.isKept_unused name) inside outsideBefore ⟨rfl, unused⟩
  refine start.andThen fun {later other} same => ?_
  obtain ⟨rfl, unused⟩ := same
  have entered : presets.run now ({ name := word, arguments := [name] } :: after) later =
      presets.run now (directives ++ after) (later.use name) := by
    rw [run_preset_fresh (by exact known) rfl found unused, run_append, run_append]
    exact Outcome.andThen_congr (run_preset_nil (by exact known) rfl)
  rw [entered]
  refine run_agree (Options.isKept_usesAlso name) inside ?_ (later.usesAlso_use name)
  exact List.forall_mem_append.2 ⟨inside name directives found, outsideAfter⟩

end Presets

/-! ### Requests -/

namespace Resolver

variable {resolver : Resolver} {now : Int} {headers : Headers} {path : String}

theorem asksOnly_initialDirectives (resolver : Resolver) {asked : String → Prop}
    (first : asked defaultPreset) :
    ∀ directive ∈ resolver.initialDirectives, directive.AsksOnly asked := by
  rw [initialDirectives]
  split
  · exact List.forall_mem_singleton.2 fun _ => List.forall_mem_singleton.2 first
  · exact List.forall_mem_nil _

/-- Segments that are directives, and among them a text that writes several directives. -/
theorem resolve_around (mode : resolver.config.onlyPresets = false) {before after : List String}
    (plain : ∀ segment ∈ before ++ after, '/' ∉ segment.toList ∧
      Directive.ofSegment? resolver.config.separator segment ≠ none)
    {text : String} {directives : List Directive}
    (read : Directive.leading resolver.config.separator (Text.split "/" text) = (directives, []))
    {source : String}
    (stops : ∀ segment ∈ (Text.split "/" source).head?,
      ¬ resolver.config.separator.toList <:+: segment.toList)
    (stripped : Stripped path ("/".intercalate (before ++ text :: after ++ [source]))) :
    resolver.resolve now headers path =
      resolver.complete
        (resolver.presets.run now
          ((resolver.initialDirectives ++
            before.filterMap (Directive.ofSegment? resolver.config.separator)) ++
              (directives ++ after.filterMap (Directive.ofSegment? resolver.config.separator)))
          (resolver.initialOptions headers))
        (Text.split "/" source) := by
  have segments : (before ++ text :: after).flatMap (Text.split "/") =
      before ++ (Text.split "/" text ++ after) :=
    Text.flatMap_split_append_cons rfl (fun segment mem => (plain segment mem).1) text
  obtain ⟨inside, rfl⟩ := Directive.ofSegment?_of_leading read
  obtain ⟨plainBefore, plainAfter⟩ := List.forall_mem_append.1 plain
  have all : ∀ segment ∈ before ++ (Text.split "/" text ++ after),
      Directive.ofSegment? resolver.config.separator segment ≠ none :=
    List.forall_mem_append.2 ⟨fun segment mem => (plainBefore segment mem).2,
      List.forall_mem_append.2 ⟨inside, fun segment mem => (plainAfter segment mem).2⟩⟩
  rw [resolve_intercalate_source mode (by simp) (segments ▸ all) stops stripped, segments,
    List.filterMap_append, List.filterMap_append, defaults_eq_run, ← Presets.run_append,
    ← List.append_assoc]

/-- The text that asks for a preset. -/
theorem leading_preset {separator name : String} (some : separator ≠ "")
    (other : ∀ c ∈ ['/', 'p', 'r'], c ∉ separator.toList)
    (disjoint : ∀ c ∈ name.toList, c ∉ separator.toList ∧ c ≠ '/') :
    Directive.leading separator (Text.split "/" ("pr" ++ separator ++ name)) =
      ([{ name := "pr", arguments := [name] }], []) := by
  obtain ⟨d, ds, begins⟩ := List.exists_cons_of_ne_nil (mt String.toList_eq_nil_iff.1 some)
  have head : separator.toList.head? = .some d := by rw [begins, List.head?_cons]
  have within : d ∈ separator.toList := List.mem_of_head? head
  have noSlash : '/' ∉ ("pr" ++ separator ++ name).toList := by
    have slash := other '/' (by decide)
    have slash' : '/' ∉ name.toList := fun mem => (disjoint '/' mem).2 rfl
    simp [slash, slash']
  have single : ¬ "/".toList <:+: ("pr" ++ separator ++ name).toList := fun found =>
    noSlash (found.subset (by decide))
  have absent : d ∉ "pr".toList := fun mem => other d (List.mem_cons_of_mem _ mem) within
  have alone : ¬ separator.toList <:+: name.toList := fun found =>
    (disjoint d (found.subset within)).1 within
  have read := Directive.ofSegment?_append head absent name
  rw [Text.split_of_not_infix alone] at read
  rw [Text.split_of_not_infix single]
  exact Directive.leading_cons read rfl

/-- A segment of a path that is a directive and does not ask for a preset. -/
structure PlainSegment (separator name segment : String) : Prop where
  noSlash : '/' ∉ segment.toList
  reads : ∃ directive, Directive.ofSegment? separator segment = some directive ∧
    directive.AsksOnly (· ≠ name)

theorem PlainSegment.isDirective {separator name segment : String}
    (plain : PlainSegment separator name segment) :
    Directive.ofSegment? separator segment ≠ none := by
  obtain ⟨directive, read, -⟩ := plain.reads
  simp [read]

theorem asksOnly_filterMap {separator name : String} {segments : List String}
    (plain : ∀ segment ∈ segments, PlainSegment separator name segment) :
    ∀ directive ∈ segments.filterMap (Directive.ofSegment? separator),
      directive.AsksOnly (· ≠ name) := by
  intro directive mem
  obtain ⟨segment, mem, read⟩ := List.mem_filterMap.1 mem
  obtain ⟨other, read', asks⟩ := (plain segment mem).reads
  cases read.symm.trans read'
  exact asks

/-- Of two paths that differ in a single place, where one asks for a preset and the other has the
value of the line that defines it, the answers agree, except that the preset is one more of those
used. Nothing else may ask for the preset: it is not the one that requests begin with, and neither
another preset nor the rest of the path asks for it. -/
theorem resolve_preset_agree (built : resolver.Built) (mode : resolver.config.onlyPresets = false)
    (some : resolver.config.separator ≠ "")
    (other : ∀ c ∈ ['/', 'p', 'r'], c ∉ resolver.config.separator.toList)
    {left right : String} {definition : PresetDefinition}
    (line : PresetDefinition.ofLine? resolver.config.separator (left ++ "=" ++ right) =
      .ok (.some definition))
    (loaded : resolver.presets.find? definition.name = .some definition.directives)
    (notDefault : definition.name ≠ defaultPreset)
    (disjoint : ∀ c ∈ definition.name.toList, c ∉ resolver.config.separator.toList ∧ c ≠ '/')
    (inside : resolver.presets.AskOnly (· ≠ definition.name))
    {before after : List String}
    (plain : ∀ segment ∈ before ++ after,
      PlainSegment resolver.config.separator definition.name segment)
    {source : String}
    (stops : ∀ segment ∈ (Text.split "/" source).head?,
      ¬ resolver.config.separator.toList <:+: segment.toList)
    {byName byValue : String}
    (asked : Stripped byName ("/".intercalate
      (before ++ ("pr" ++ resolver.config.separator ++ definition.name) :: after ++ [source])))
    (written : Stripped byValue ("/".intercalate
      (before ++ Text.trim right :: after ++ [source])))
    (now : Int) (headers : Headers) :
    (resolver.resolve now headers byName).Agree (Options.UsesAlso definition.name)
      (resolver.resolve now headers byValue) := by
  have segments : ∀ segment ∈ before ++ after, '/' ∉ segment.toList ∧
      Directive.ofSegment? resolver.config.separator segment ≠ none :=
    fun segment mem => ⟨(plain segment mem).noSlash, (plain segment mem).isDirective⟩
  rw [resolve_around mode segments (leading_preset some other disjoint) stops asked,
    resolve_around mode segments (PresetDefinition.leading_of_ofLine? line) stops written]
  refine complete_agree (Options.isKept_usesAlso _) resolver ?_ _
  have known : Keyword.ofName? "pr" = .some .preset := by decide
  have unused := built.usedPresets_initialOptions headers
  refine Presets.run_preset_agree known loaded inside ?_ (by simp [unused])
  obtain ⟨plainBefore, plainAfter⟩ := List.forall_mem_append.1 plain
  have initially : ∀ directive ∈ resolver.initialDirectives,
      directive.AsksOnly (· ≠ definition.name) :=
    resolver.asksOnly_initialDirectives notDefault.symm
  exact List.forall_mem_append.2 ⟨List.forall_mem_append.2
    ⟨initially, asksOnly_filterMap plainBefore⟩, asksOnly_filterMap plainAfter⟩

/-- A configuration with two presets, one of which asks for the other. -/
def thumbnails : Config :=
  { processing := { presets := [" thumb = w:10/pr:gray ", "gray=bl:2"] } }

/-- The preset that the first line defines. -/
def thumb : PresetDefinition :=
  { name := "thumb"
    directives := [{ name := "w", arguments := ["10"] }, { name := "pr", arguments := ["gray"] }] }

/-- What is set up from the configuration. -/
def thumbnailsResolver : Resolver :=
  { plain with
    config := thumbnails.processing
    presets := (Presets.empty.insert thumb.name thumb.directives).insert
      "gray" [{ name := "bl", arguments := ["2"] }] }

theorem built_thumbnailsResolver : thumbnailsResolver.Built := by
  have made : ofConfig (fun _ => .error .notFound) 0 thumbnails = .ok thumbnailsResolver :=
    ofConfig_eq_ok.2 ⟨thumbnailsResolver.presets, plain.verifier, rfl,
      Presets.check_of_allAccepted (by decide), by decide, rfl, rfl⟩
  exact .ofConfig made

/-- The other preset is used by the value of the line, and is asked for again behind it. -/
theorem resolve_thumb_agree :
    thumbnailsResolver.Built ∧
      PresetDefinition.ofLine? ":" (" thumb " ++ "=" ++ " w:10/pr:gray ") = .ok (some thumb) ∧
      thumbnailsResolver.presets.find? "thumb" = some thumb.directives ∧
      thumbnailsResolver.presets.AskOnly (· ≠ "thumb") ∧
      (∀ segment ∈ ["h:20", "pr:gray"], PlainSegment ":" "thumb" segment) ∧
      (thumbnailsResolver.resolve 0 [] "/h:20/pr:thumb/pr:gray/plain/a").Agree
        (Options.UsesAlso "thumb")
        (thumbnailsResolver.resolve 0 [] "/h:20/w:10/pr:gray/pr:gray/plain/a") ∧
      (thumbnailsResolver.resolve 0 [] "/h:20/pr:thumb/pr:gray/plain/a").result.isOk = true := by
  have line : PresetDefinition.ofLine? ":" (" thumb " ++ "=" ++ " w:10/pr:gray ") =
      .ok (some thumb) := by decide
  have loaded : thumbnailsResolver.presets.find? "thumb" = some thumb.directives := by decide
  have inside : thumbnailsResolver.presets.AskOnly (· ≠ "thumb") := by decide
  have height : Directive.ofSegment? ":" "h:20" = some { name := "h", arguments := ["20"] } := by
    decide
  have gray : Directive.ofSegment? ":" "pr:gray" =
      some { name := "pr", arguments := ["gray"] } := by decide
  have plain : ∀ segment ∈ ["h:20", "pr:gray"], PlainSegment ":" "thumb" segment := by
    refine List.forall_mem_cons.2 ⟨⟨by decide, _, height, by decide⟩, ?_⟩
    exact List.forall_mem_singleton.2 ⟨by decide, _, gray, by decide⟩
  have other : ∀ c ∈ ['/', 'p', 'r'], c ∉ ":".toList := by simp
  have disjoint : ∀ c ∈ "thumb".toList, c ∉ ":".toList ∧ c ≠ '/' := by simp
  have stops : ∀ segment ∈ (Text.split "/" "plain/a").head?, ¬ ":".toList <:+: segment.toList := by
    decide
  have asked : relative "/h:20/pr:thumb/pr:gray/plain/a" = "/".intercalate
      (["h:20"] ++ ("pr" ++ ":" ++ "thumb") :: ["pr:gray"] ++ ["plain/a"]) := by decide
  have written : relative "/h:20/w:10/pr:gray/pr:gray/plain/a" = "/".intercalate
      (["h:20"] ++ Text.trim " w:10/pr:gray " :: ["pr:gray"] ++ ["plain/a"]) := by decide
  have agree := resolve_preset_agree built_thumbnailsResolver rfl (by decide) other line loaded
    (by decide) disjoint inside plain stops (asked ▸ stripped_relative _)
    (written ▸ stripped_relative _) 0 []
  refine ⟨built_thumbnailsResolver, line, loaded, inside, plain, agree, ?_⟩
  have decoded : thumbnailsResolver.decodeSource
      (thumbnailsResolver.sourceSegments "/h:20/pr:thumb/pr:gray/plain/a") =
        .ok { url := "a", extension? := none } := by decide +kernel
  have accepted : (thumbnailsResolver.presets.run 0
      (thumbnailsResolver.agenda "/h:20/pr:thumb/pr:gray/plain/a" ++ [])
      (thumbnailsResolver.initialOptions [])).rejection? = none :=
    Presets.rejection?_run_eq_none (by decide) (by decide)
  rw [resolve_eq_ok.2 ⟨by decide, _, decoded, accepted, rfl⟩]
  rfl

end Resolver

end ImageRequest

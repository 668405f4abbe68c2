import ImageRequest.Proofs.Hints
import ImageRequest.Proofs.Presets.Nesting
import ImageRequest.Resolver

/-!
# Requests as runs

A request runs one agenda: the default preset, the directives of its path or the presets that the
path names, and a directive for the format that the extension of the source asks for. Everything
that goes through, with a signature or without, is an agenda that was run without rejection from the
baseline with its hints.
-/

namespace ImageRequest

/-- The directive that stands for the extension of a source. -/
def Source.directives (source : Source) : List Directive :=
  source.extension?.toList.map fun extension =>
    { name := Setting.format.name, arguments := [extension] }

/-- Hints write the preferred formats, the width and the pixel ratio, and nothing else. -/
theorem Options.exists_withHints (config : ProcessingConfig) (headers : Headers)
    (options : Options) :
    ∃ preferWebp enforceWebp preferAvif enforceAvif width dpr,
      options.withHints config headers =
        { options with preferWebp, enforceWebp, preferAvif, enforceAvif, width, dpr } :=
  ⟨_, _, _, _, _, _, options.withHints_eq config headers⟩

namespace Resolver

/-- A resolver that was set up from a configuration, with any way of reading sources. -/
inductive Built : Resolver → Prop
  | ofConfig {files : Files} {now : Int} {config : Config} {resolver : Resolver} :
    Resolver.ofConfig files now config = .ok resolver → Built resolver
  | withDecoder {resolver : Resolver} (decoder : SourceDecoder) :
    Built resolver → Built { resolver with decodeSource := decoder }

/-- The directive that asks for the default preset, if there is one. -/
def initialDirectives (resolver : Resolver) : List Directive :=
  if resolver.presets.contains defaultPreset then
    [{ name := Keyword.preset.name, arguments := [defaultPreset] }]
  else []

/-- The directives that a path gives, or the one that asks for the presets that it names. -/
def pathDirectives (resolver : Resolver) (path : String) : List Directive :=
  let segments := Text.split "/" (relative path)
  if resolver.config.onlyPresets then
    [{ name := Keyword.preset.name
       arguments := Text.split resolver.config.separator (segments.headD "") }]
  else (Directive.leading resolver.config.separator segments).1

/-- The segments of a path that encode its source. -/
def sourceSegments (resolver : Resolver) (path : String) : List String :=
  let segments := Text.split "/" (relative path)
  if resolver.config.onlyPresets then segments.drop 1
  else (Directive.leading resolver.config.separator segments).2

/-- The directives that are run before the source of a path is read. -/
def agenda (resolver : Resolver) (path : String) : List Directive :=
  resolver.initialDirectives ++ resolver.pathDirectives path

/-- The options that a request with some headers starts from. -/
def initialOptions (resolver : Resolver) (headers : Headers) : Options :=
  resolver.baseline.withHints resolver.config headers

variable {resolver : Resolver} {now : Int} {headers : Headers} {path : String}

/-- A resolver is set up exactly if its presets can be loaded and pass their check, there are some
where requests need them, and signing can be set up. -/
theorem ofConfig_eq_ok {files : Files} {config : Config} :
    ofConfig files now config = .ok resolver ↔
      ∃ presets verifier, config.processing.loadPresets files = .ok presets ∧
        (presets.check now config.processing.baseline).2 = none ∧
        (config.processing.onlyPresets && presets.isEmpty) = false ∧
        Verifier.ofConfig config.security = .ok verifier ∧
        resolver =
          { config := config.processing, baseline := config.processing.baseline, presets, verifier
            decodeSource := Source.decoder config.processing.baseUrl } := by
  rw [ofConfig, setUp]
  cases loaded : config.processing.loadPresets files with
  | error error => simp
  | ok presets =>
      rcases checked : presets.check now config.processing.baseline with ⟨warnings, error?⟩
      cases error? with
      | some error => simp [checked]
      | none =>
          simp only [checked, Except.ok.injEq, exists_and_left, exists_eq_left', true_and]
          cases config.processing.onlyPresets && presets.isEmpty with
          | true => simp
          | false =>
              cases Verifier.ofConfig config.security with
              | error error => simp
              | ok verifier => simp [@eq_comm _ resolver]

theorem Built.baseline_eq (built : resolver.Built) :
    resolver.baseline = resolver.config.baseline := by
  induction built with
  | ofConfig made =>
      obtain ⟨presets, verifier, -, -, -, -, rfl⟩ := ofConfig_eq_ok.1 made
      rfl
  | withDecoder decoder built ih => exact ih

/-- Requests start from the options of the configuration, but for what hints write. -/
theorem Built.exists_initialOptions (built : resolver.Built) (headers : Headers) :
    ∃ preferWebp enforceWebp preferAvif enforceAvif width dpr,
      resolver.initialOptions headers =
        { resolver.config.baseline with
          preferWebp, enforceWebp, preferAvif, enforceAvif, width, dpr } := by
  rw [initialOptions, built.baseline_eq]
  exact Options.exists_withHints _ _ _

theorem Built.usedPresets_initialOptions (built : resolver.Built) (headers : Headers) :
    (resolver.initialOptions headers).usedPresets = [] := by
  obtain ⟨preferWebp, enforceWebp, preferAvif, enforceAvif, width, dpr, same⟩ :=
    built.exists_initialOptions headers
  rw [same]
  rfl

/-- The extension of a source can change the format and nothing else. -/
theorem exists_options_finish (source : Source) (options : Options) :
    ∃ format?, (finish source options).options = { options with format? } := by
  rw [finish]
  cases source.extension? with
  | none => exact ⟨options.format?, rfl⟩
  | some extension =>
      simp only [(Handler.Runs.format [extension]).run_eq, Script.format, Script.single]
      cases Token.format extension with
      | error rejection => exact ⟨options.format?, rfl⟩
      | ok format => exact ⟨some format, rfl⟩

theorem defaults_eq_run (resolver : Resolver) (now : Int) (headers : Headers) :
    resolver.defaults now headers =
      resolver.presets.run now resolver.initialDirectives (resolver.initialOptions headers) := by
  rw [defaults, initialDirectives]
  split
  · rfl
  · rw [Presets.run_nil]
    rfl

/-- Asking for the format of an extension is running its directive. -/
theorem finish_eq_run (presets : Presets) (now : Int) (source : Source) (options : Options) :
    finish source options = presets.run now source.directives options := by
  rw [finish, Source.directives]
  cases source.extension? with
  | none =>
      rw [Option.toList_none, List.map_nil, Presets.run_nil]
  | some extension =>
      have known : Keyword.ofName? Setting.format.name = some (.setting .format) := by decide
      rw [Option.toList_some, List.map_singleton, Presets.run_handler_singleton known]
      rfl

theorem resolve_eq_complete (given : ¬ (path = "" ∨ path = "/")) :
    resolver.resolve now headers path =
      resolver.complete
        (resolver.presets.run now (resolver.agenda path) (resolver.initialOptions headers))
        (resolver.sourceSegments path) := by
  rw [resolve, if_neg given, agenda, Presets.run_append, ← defaults_eq_run, pathDirectives,
    sourceSegments]
  cases resolver.config.onlyPresets with
  | true => rfl
  | false => rfl

/-- A request goes through exactly when its source can be read and its agenda is run without
rejection, the directive for the extension included. -/
theorem complete_eq_ok {outcome : Outcome} {segments : List String} {resolved : ResolvedRequest} :
    (resolver.complete outcome segments).result = .ok resolved ↔
      ∃ source, resolver.decodeSource segments = .ok source ∧
        (outcome.andThen (finish source)).rejection? = none ∧
        resolved =
          { options := (outcome.andThen (finish source)).options, url := source.url } := by
  rw [complete]
  cases rejected : outcome.rejection? with
  | some rejection =>
      simp [Outcome.andThen_of_some rejected, rejected]
  | none =>
      cases decoded : resolver.decodeSource segments with
      | error error => simp
      | ok source =>
          cases final : (outcome.andThen (finish source)).rejection? with
          | some rejection => simp [final]
          | none => simp [final, eq_comm]

theorem resolve_eq_ok {resolved : ResolvedRequest} :
    (resolver.resolve now headers path).result = .ok resolved ↔
      ¬ (path = "" ∨ path = "/") ∧
        ∃ source, resolver.decodeSource (resolver.sourceSegments path) = .ok source ∧
          (resolver.presets.run now (resolver.agenda path ++ source.directives)
            (resolver.initialOptions headers)).rejection? = none ∧
          resolved =
            { options :=
                (resolver.presets.run now (resolver.agenda path ++ source.directives)
                  (resolver.initialOptions headers)).options
              url := source.url } := by
  by_cases empty : path = "" ∨ path = "/"
  · simp [resolve, empty]
  · rw [resolve_eq_complete empty, complete_eq_ok]
    have same : ∀ source, finish source = resolver.presets.run now source.directives :=
      fun source => funext (finish_eq_run resolver.presets now source)
    simp only [empty, not_false_eq_true, true_and, same, Presets.run_append]

/-- A request that goes through has run the directives of its path, and then asked for the format
that the extension of its source stands for. -/
theorem exists_finish_of_resolve {resolved : ResolvedRequest}
    (ok : (resolver.resolve now headers path).result = .ok resolved) :
    ∃ source, resolver.decodeSource (resolver.sourceSegments path) = .ok source ∧
      (resolver.presets.run now (resolver.agenda path)
        (resolver.initialOptions headers)).rejection? = none ∧
      resolved =
        { options :=
            (finish source (resolver.presets.run now (resolver.agenda path)
              (resolver.initialOptions headers)).options).options
          url := source.url } := by
  obtain ⟨-, source, decoded, accepted, rfl⟩ := resolve_eq_ok.1 ok
  rw [Presets.run_append] at accepted
  obtain ⟨first, -⟩ := Outcome.rejection?_andThen_eq_none.1 accepted
  refine ⟨source, decoded, first, ?_⟩
  rw [Presets.run_append, Outcome.options_andThen first, finish_eq_run resolver.presets now]

/-- A request without directives gets the options that it starts from, in the format that the
extension of its source asks for. -/
theorem resolve_of_agenda_eq_nil {source : Source} (given : ¬ (path = "" ∨ path = "/"))
    (nothing : resolver.agenda path = [])
    (decoded : resolver.decodeSource (resolver.sourceSegments path) = .ok source)
    (accepted : (finish source (resolver.initialOptions headers)).rejection? = none) :
    (resolver.resolve now headers path).result =
      .ok
        { options := (finish source (resolver.initialOptions headers)).options
          url := source.url } := by
  rw [finish_eq_run resolver.presets now] at accepted ⊢
  refine resolve_eq_ok.2 ⟨given, source, decoded, ?_, ?_⟩
  · rw [nothing, List.nil_append, accepted]
  · rw [nothing, List.nil_append]

/-- A request with a signature goes through only if the path that is signed does. -/
theorem resolve_of_resolveSigned {resolved : ResolvedRequest}
    (ok : (resolver.resolveSigned now headers path).result = .ok resolved) :
    ∃ signature unsigned, splitSignature? path = some (signature, unsigned) ∧
      (resolver.resolve now headers unsigned).result = .ok resolved := by
  rw [resolveSigned] at ok
  split at ok
  · cases ok
  · rename_i signature unsigned split
    split at ok
    · cases ok
    · exact ⟨signature, unsigned, split, ok⟩

/-- What relates each refusal to itself, and the answers to every path without a signature, relates
those to every path with one. -/
theorem resolveSigned_rel {Related : Resolution → Resolution → Prop} {now' : Int}
    {headers' : Headers}
    (refused : ∀ error, Related { warnings := [], result := .error error }
      { warnings := [], result := .error error })
    (unsigned : ∀ path,
      Related (resolver.resolve now headers path) (resolver.resolve now' headers' path))
    (path : String) :
    Related (resolver.resolveSigned now headers path)
      (resolver.resolveSigned now' headers' path) := by
  rw [resolveSigned, resolveSigned]
  cases splitSignature? path with
  | none => exact refused _
  | some parts =>
      obtain ⟨signature, signed⟩ := parts
      cases checked : resolver.verifier.verify signature signed with
      | error error =>
          simp only [checked]
          exact refused _
      | ok _ =>
          simp only [checked]
          exact unsigned signed

/-- The nested recursion evaluates requests whose source has no extension, seen through a view of
the options. -/
theorem exists_resolve_of_nested {α : Type} {value : α} {levels : Nat} {url : String}
    (view : Options → α) (given : ¬ (path = "" ∨ path = "/"))
    (decoded : resolver.decodeSource (resolver.sourceSegments path) =
      .ok { url, extension? := none })
    (enough : resolver.presets.unused (resolver.initialOptions headers).usedPresets < levels)
    (evaluated :
      (resolver.presets.nested now levels (resolver.agenda path)
        (resolver.initialOptions headers)).map
        (fun account => (account.outcome.rejection?, view account.outcome.options)) =
        some (none, value)) :
    ∃ resolved, (resolver.resolve now headers path).result = .ok resolved ∧
      view resolved.options = value := by
  obtain ⟨account, gives, same⟩ := Option.map_eq_some_iff.1 evaluated
  obtain ⟨accepted, seen⟩ := Prod.mk.inj same
  have ran := Presets.run_eq_of_nested enough gives
  rw [← ran] at accepted seen
  have noDirectives : Source.directives { url, extension? := none } = [] := rfl
  refine ⟨_, resolve_eq_ok.2 ⟨given, _, decoded, ?_, rfl⟩, ?_⟩
  · rwa [noDirectives, List.append_nil]
  · simpa only [noDirectives, List.append_nil] using seen

/-- The resolver for a configuration in which nothing is set. -/
def plain : Resolver where
  config := {}
  baseline := ({} : ProcessingConfig).baseline
  presets := .empty
  decodeSource := Source.decoder ""
  verifier := { pairs := [], signatureSize := 32 }

theorem built_plain : plain.Built := by
  have made : ofConfig (fun _ => .error .notFound) 0 {} = .ok plain := rfl
  exact .ofConfig made

theorem exists_resolve_plain {α : Type} {value : α} {path : String} (view : Options → α)
    (given : ¬ (path = "" ∨ path = "/")) (segments : plain.sourceSegments path = ["plain", "a"])
    (evaluated : (plain.presets.nested 0 1 (plain.agenda path) (plain.initialOptions [])).map
      (fun account => (account.outcome.rejection?, view account.outcome.options)) =
        some (none, value)) :
    ∃ resolved, (plain.resolve 0 [] path).result = .ok resolved ∧ view resolved.options = value := by
  have decoded : plain.decodeSource (plain.sourceSegments path) =
      .ok { url := "a", extension? := none } := by
    rw [segments]
    rfl
  exact exists_resolve_of_nested view given decoded (by decide) evaluated

end Resolver

end ImageRequest

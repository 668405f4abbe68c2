import ImageRequest.Proofs.Directive
import ImageRequest.Proofs.Presets.Check
import ImageRequest.Proofs.Resolver.Signed

/-!
# Requests that can name presets only

Where the configuration allows presets only, the first segment of a path names presets. The same
presets can be asked for by a directive where directives are allowed. The two resolvers of one
configuration, with that restriction and without it, give the same answers to the two ways of
writing it (`resolve_allowDirectives`): the name of the directive, its separator and the segment
make up a segment that is read as a request for just these presets.
-/

namespace ImageRequest

/-- A request for presets is the same by each name of its keyword. -/
theorem Presets.run_preset_eq_runPresets (presets : Presets) (now : Int) {name : String}
    (known : Keyword.ofName? name = some .preset) (names : List String) (options : Options) :
    presets.run now [{ name, arguments := names }] options =
      presets.runPresets now names options := by
  have known' : Keyword.ofName? Keyword.preset.name = some .preset := by decide
  rw [runPresets]
  induction names generalizing options with
  | nil => rw [run_preset_nil known rfl, run_preset_nil known' rfl]
  | cons first names ih =>
      cases found : presets.find? first with
      | none => rw [run_preset_unknown known rfl found, run_preset_unknown known' rfl found]
      | some directives =>
          by_cases used : first ∈ options.usedPresets
          · have step : ∀ {name : String}, Keyword.ofName? name = some .preset →
                presets.run now [{ name, arguments := first :: names }] options =
                  (presets.run now [{ name, arguments := names }] options).after
                    [.presetAlreadyUsed first] :=
              fun known => run_preset_used known rfl found used
            rw [step known, step known', ih]
          · have step : ∀ {name : String}, Keyword.ofName? name = some .preset →
                presets.run now [{ name, arguments := first :: names }] options =
                  (presets.run now directives (options.use first)).andThen
                    (presets.run now [{ name, arguments := names }]) := by
              intro name known
              rw [run_preset_fresh known rfl found used, run_append]
            rw [step known, step known']
            exact Outcome.andThen_congr (ih _)

/-- The configuration with directives allowed. -/
def Config.allowDirectives (config : Config) : Config :=
  { config with processing := { config.processing with onlyPresets := false } }

namespace Resolver

/-- The resolver with directives allowed. -/
def allowDirectives (resolver : Resolver) : Resolver :=
  { resolver with config := { resolver.config with onlyPresets := false } }

variable {resolver : Resolver} {now : Int} {headers : Headers}

/-- Where a resolver can be set up, it can be with directives allowed. -/
theorem ofConfig_allowDirectives {files : Files} {config : Config}
    (made : ofConfig files now config = .ok resolver) :
    ofConfig files now config.allowDirectives = .ok resolver.allowDirectives := by
  obtain ⟨presets, verifier, loaded, passed, -, signing, rfl⟩ := ofConfig_eq_ok.1 made
  exact ofConfig_eq_ok.2 ⟨presets, verifier, loaded, passed, rfl, signing, rfl⟩

/-- A slash and something behind it is a path that is not empty. -/
theorem not_empty_slash_append {text : String} (some : text ≠ "") :
    ¬ ("/" ++ text = "" ∨ "/" ++ text = "/") := by
  rintro (empty | slash)
  · simpa using congrArg String.toList empty
  · exact some (String.toList_inj.1 (by simpa using congrArg String.toList slash))

theorem resolve_of_segments {path other : String} {first name : String} {rest : List String}
    (mode : resolver.config.onlyPresets = true)
    (given : ¬ (path = "" ∨ path = "/")) (given' : ¬ (other = "" ∨ other = "/"))
    (known : Keyword.ofName? name = some .preset)
    (segments : Text.split "/" (relative path) = first :: rest)
    (read : Directive.leading resolver.config.separator (Text.split "/" (relative other)) =
      ([{ name, arguments := Text.split resolver.config.separator first }], rest)) :
    resolver.resolve now headers path = resolver.allowDirectives.resolve now headers other := by
  have named : resolver.resolvePresets now headers (first :: rest) =
      resolver.complete ((resolver.defaults now headers).andThen (resolver.presets.runPresets now
        (Text.split resolver.config.separator first))) rest := rfl
  have asked : resolver.resolveDirectives now headers (Text.split "/" (relative other)) =
      resolver.complete ((resolver.defaults now headers).andThen (resolver.presets.run now
        [{ name, arguments := Text.split resolver.config.separator first }])) rest := by
    rw [resolveDirectives, read]
  rw [resolve, if_neg given, mode, if_pos rfl, segments, named]
  rw [resolve, if_neg given']
  change _ = resolver.resolveDirectives now headers (Text.split "/" (relative other))
  rw [asked]
  exact congrArg (resolver.complete · rest) (Outcome.andThen_congr
    (resolver.presets.run_preset_eq_runPresets now known _ _).symm)

/-- A resolver that takes presets only answers a path whose first segment names presets as the
resolver for directives answers the path with a directive for these presets instead. The latter is
what the same configuration sets up without the restriction. -/
theorem resolve_allowDirectives (resolver : Resolver)
    (mode : resolver.config.onlyPresets = true) (nonempty : resolver.config.separator ≠ "")
    (unread : ∀ c ∈ ['/', 'p', 'r'], c ∉ resolver.config.separator.toList) :
    (∀ files start config, ofConfig files start config = .ok resolver →
      ofConfig files start config.allowDirectives = .ok resolver.allowDirectives) ∧
    ∀ (first : String) (rest : List String),
      (∀ segment ∈ first :: rest, '/' ∉ segment.toList) →
      (∀ segment ∈ rest.head?, ¬ resolver.config.separator.toList <:+: segment.toList) →
      (first ≠ "" ∨ rest ≠ []) →
      ∀ (now : Int) (headers : Headers),
        resolver.resolve now headers ("/" ++ "/".intercalate (first :: rest)) =
          resolver.allowDirectives.resolve now headers
            ("/" ++ "/".intercalate (("pr" ++ resolver.config.separator ++ first) :: rest)) := by
  refine ⟨fun files start config made => ofConfig_allowDirectives made, ?_⟩
  intro first rest segments stops more now headers
  simp only [List.forall_mem_cons, List.not_mem_nil, false_implies, implies_true, and_true] at unread
  obtain ⟨slash, p, r⟩ := unread
  obtain ⟨whole, others⟩ := List.forall_mem_cons.1 segments
  have whole' : '/' ∉ ("pr" ++ resolver.config.separator ++ first).toList := by
    simp [slash, whole]
  have cut : ∀ {front : String}, '/' ∉ front.toList →
      Text.split "/" (relative ("/" ++ "/".intercalate (front :: rest))) = front :: rest := by
    intro front absent
    rw [(Stripped.slash _).relative_eq]
    exact Text.split_intercalate (d := '/') rfl (List.forall_mem_cons.2 ⟨absent, others⟩) nofun
  have asked : Directive.leading resolver.config.separator
      (("pr" ++ resolver.config.separator ++ first) :: rest) =
        ([{ name := "pr", arguments := Text.split resolver.config.separator first }], rest) :=
    Directive.leading_append_cons nonempty (by simp [p, r]) stops first
  have known : Keyword.ofName? "pr" = some .preset := by decide
  have given : "/".intercalate (first :: rest) ≠ "" :=
    Text.intercalate_cons_ne_empty (by decide) more
  have given' : "/".intercalate (("pr" ++ resolver.config.separator ++ first) :: rest) ≠ "" :=
    Text.intercalate_cons_ne_empty (by decide) (.inl (by simp))
  refine resolve_of_segments mode (not_empty_slash_append given) (not_empty_slash_append given')
    known (cut whole) ?_
  rw [cut whole', asked]

/-- A configuration that takes presets only. Requests begin with one of them, and another asks for
the third. -/
def gallery : Config :=
  { processing :=
      { onlyPresets := true, presets := ["thumb=w:10/pr:gray", "gray=bl:2", "default=h:20"] } }

/-- What is set up from the configuration. -/
def galleryResolver : Resolver :=
  { plain with
    config := gallery.processing
    presets := ((Presets.empty.insert "thumb"
      [{ name := "w", arguments := ["10"] }, { name := "pr", arguments := ["gray"] }]).insert
      "gray" [{ name := "bl", arguments := ["2"] }]).insert
      "default" [{ name := "h", arguments := ["20"] }] }

/-- The first segment names two presets, of which the second is used by the first already. -/
theorem resolve_gallery :
    ofConfig (fun _ => .error .notFound) 0 gallery = .ok galleryResolver ∧
      ofConfig (fun _ => .error .notFound) 0 gallery.allowDirectives =
        .ok galleryResolver.allowDirectives ∧
      galleryResolver.resolve 0 [] "/thumb:gray/plain/a" =
        galleryResolver.allowDirectives.resolve 0 [] "/pr:thumb:gray/plain/a" ∧
      ∃ resolved,
        (galleryResolver.resolve 0 [] "/thumb:gray/plain/a").result = .ok resolved ∧
        resolved.options.width = 10 ∧ resolved.options.height = 20 ∧
        resolved.options.usedPresets = ["default", "thumb", "gray"] := by
  have made : ofConfig (fun _ => .error .notFound) 0 gallery = .ok galleryResolver :=
    ofConfig_eq_ok.2 ⟨galleryResolver.presets, plain.verifier, rfl,
      Presets.check_of_allAccepted (by decide), by decide, rfl, rfl⟩
  obtain ⟨allowed, answers⟩ :=
    resolve_allowDirectives galleryResolver rfl (by decide) (by simp [galleryResolver, gallery])
  have decoded : galleryResolver.decodeSource
      (galleryResolver.sourceSegments "/thumb:gray/plain/a") =
        .ok { url := "a", extension? := none } := by decide +kernel
  have evaluated : ∃ resolved,
      (galleryResolver.resolve 0 [] "/thumb:gray/plain/a").result = .ok resolved ∧
        (resolved.options.width, resolved.options.height, resolved.options.usedPresets) =
          (10, 20, ["default", "thumb", "gray"]) :=
    exists_resolve_of_nested (fun o => (o.width, o.height, o.usedPresets)) (by decide) decoded
      (show _ < 4 by decide) (by decide +kernel)
  obtain ⟨resolved, ok, seen⟩ := evaluated
  exact ⟨made, allowed _ 0 gallery made,
    answers "thumb:gray" ["plain", "a"] (by decide) (by decide) (.inr (by decide)) 0 [],
    resolved, ok, by simpa using seen⟩

end Resolver

end ImageRequest

import ImageRequest.Proofs.Directive
import ImageRequest.Proofs.Resolver.Request

/-!
# Requests without directives

A path that consists of a source alone asks for nothing. Where there is no default preset either,
the request gets the options of the configuration, overlaid with what its headers say: the flags of
the formats that the client accepts and, where the configuration allows it, a width and a pixel
ratio. Every other option is that of the configuration, and so is each of these where no header
gives it.
-/

namespace ImageRequest

namespace Resolver

/-- A path that consists of a source without an extension alone goes through, without warnings, and
the options of the configuration are overlaid with what the headers say. -/
theorem resolve_overlaid {files : Files} {start : Int} {config : Config} {resolver : Resolver}
    (made : ofConfig files start config = .ok resolver)
    (unnamed : resolver.presets.contains defaultPreset = false)
    (mode : config.processing.onlyPresets = false) {path url : String}
    (stops : ∀ segment ∈ (Text.split "/" (relative path)).head?,
      ¬ config.processing.separator.toList <:+: segment.toList)
    (decoded : Source.decode config.processing.baseUrl (Text.split "/" (relative path)) =
      .ok { url, extension? := none })
    (now : Int) (headers : Headers) :
    ∃ options, resolver.resolve now headers path = { warnings := [], result := .ok { options, url } } ∧
      ∀ other, Options.Overlaid config.processing headers config.processing.baseline other ↔
        other = options := by
  refine ⟨config.processing.baseline.withHints config.processing headers, ?_,
    fun other => Options.overlaid_iff⟩
  have given : ¬ (path = "" ∨ path = "/") := by
    rintro (rfl | rfl) <;> cases decoded
  obtain ⟨presets, verifier, -, -, -, -, rfl⟩ := ofConfig_eq_ok.1 made
  have source := Directive.leading_eq_nil stops
  have read := Source.decoder_eq_ok_iff.2 decoded
  rw [resolve_eq_complete given, agenda, initialDirectives, unnamed, pathDirectives, sourceSegments]
  simp only [mode, source, Bool.false_eq_true, if_false, List.append_nil, Presets.run_nil, complete,
    read]
  rfl

/-- A configuration that prefers WebP for clients that accept it, and allows hints. -/
def hinting : Config := { processing := { detectWebp := true, clientHints := true } }

/-- Some headers. Neither the second list of media types nor a width that is no number says
anything. -/
def hints : Headers :=
  [("Accept", "text/html,image/webp"), ("accept", "image/avif"), ("Width", "wide"),
    ("Viewport-Width", " 0640 "), ("DPR", "2")]

theorem resolve_hints :
    ∃ resolver, ofConfig (fun _ => .error .notFound) 0 hinting = .ok resolver ∧
      resolver.resolve 0 hints "/plain/a" =
        { warnings := []
          result := .ok
            { options :=
                { hinting.processing.baseline with preferWebp := true, width := 640, dpr := 2.0 }
              url := "a" } } := by
  have made : ofConfig (fun _ => .error .notFound) 0 hinting =
      .ok { plain with config := hinting.processing } := rfl
  have decoded : Source.decode "" (Text.split "/" (relative "/plain/a")) =
      .ok { url := "a", extension? := none } := rfl
  obtain ⟨options, answered, only⟩ :=
    resolve_overlaid made rfl rfl (by decide) decoded 0 hints
  have overlaid : Options.Overlaid hinting.processing hints hinting.processing.baseline
      { hinting.processing.baseline with preferWebp := true, width := 640, dpr := 2.0 } :=
    Options.overlaid_iff.2 (by decide +kernel)
  exact ⟨_, made, by rw [answered, (only _).1 overlaid]⟩

end Resolver

end ImageRequest

import ImageRequest.Proofs.Resolver.Separator
import ImageRequest.Proofs.Resolver.Written

/-!
# Extensions and directives for the format

The extension behind a plain source asks for a format at the end of a request. A directive for the
format that stands behind all others does the same: whatever the directives in front of it are, both
requests have the same answer (`resolve_extension`). The two go different ways, as the directive is
run before the source is read and the extension after that.
-/

namespace ImageRequest.Resolver

variable {resolver : Resolver} {now : Int} {headers : Headers}

/-- Segments that are directives are run, and behind the marker stands the source. -/
theorem resolve_plainMarker (mode : resolver.config.onlyPresets = false)
    (marker : ¬ resolver.config.separator.toList <:+: Source.plainMarker.toList)
    {before : List String}
    (directives : ∀ segment ∈ before, '/' ∉ segment.toList ∧
      Directive.ofSegment? resolver.config.separator segment ≠ none) (text : String) :
    resolver.resolve now headers
        ("/" ++ "/".intercalate (before ++ [Source.plainMarker, text])) =
      resolver.complete
        ((resolver.defaults now headers).andThen (resolver.presets.run now
          (before.filterMap (Directive.ofSegment? resolver.config.separator))))
        (Source.plainMarker :: Text.split "/" text) := by
  have given : "/".intercalate (before ++ [Source.plainMarker, text]) ≠ "" :=
    Text.intercalate_ne_empty_of_mem (List.mem_append_right before List.mem_cons_self) (by decide)
  have absent : ∀ segment ∈ before ++ [Source.plainMarker], '/' ∉ segment.toList := by
    refine List.forall_mem_append.2 ⟨fun segment mem => (directives segment mem).1, ?_⟩
    exact List.forall_mem_singleton.2 (by decide)
  have pieces : (before ++ [Source.plainMarker, text]).flatMap (Text.split "/") =
      before ++ Source.plainMarker :: Text.split "/" text := by
    rw [List.append_cons, List.flatMap_append, Text.flatMap_split_of_not_mem (d := '/') rfl absent,
      List.flatMap_singleton, ← List.append_cons]
  have stops : ∀ segment ∈ (Source.plainMarker :: Text.split "/" text).head?,
      ¬ resolver.config.separator.toList <:+: segment.toList := by
    rintro _ ⟨⟩
    exact marker
  rw [resolve_intercalate mode (by simp) given (.slash _), pieces,
    resolveDirectives_append fun segment mem => (directives segment mem).2,
    Directive.leading_eq_nil stops, List.append_nil]

/-- A directive for the format does what an extension does. -/
theorem run_format_eq_finish {name : String} (named : name ∈ (Keyword.setting .format).names)
    (presets : Presets) (now : Int) (url extension : String) :
    presets.run now [{ name, arguments := [extension] }] =
      finish { url, extension? := some extension } := by
  funext options
  rw [Presets.run_handler_singleton (Keyword.ofName?_of_mem_names named)]
  rfl

/-- It does so behind all others, whatever these have set or rejected. -/
theorem andThen_run_append_format {name : String} (named : name ∈ (Keyword.setting .format).names)
    (outcome : Outcome) (presets : Presets) (now : Int) (directives : List Directive)
    (url extension : String) :
    outcome.andThen (presets.run now (directives ++ [{ name, arguments := [extension] }])) =
      (outcome.andThen (presets.run now directives)).andThen
        (finish { url, extension? := some extension }) := by
  rw [Outcome.andThen_assoc]
  refine Outcome.andThen_congr ?_
  rw [Presets.run_append, run_format_eq_finish named]

/-- A source without an extension leaves the outcome as it is. -/
theorem andThen_finish_of_none (outcome : Outcome) (url : String) :
    outcome.andThen (finish { url, extension? := none }) = outcome := by
  have nothing : finish { url, extension? := none } = Presets.empty.run 0 [] := by
    funext options
    rw [Presets.run_nil]
    rfl
  rw [nothing, Presets.andThen_run_nil]

section Address

variable {url address : String} (given : url ≠ "") (unmarked : '@' ∉ url.toList)
  (unescaped : Source.unescape? url = some address)
include given unmarked unescaped

/-- Behind the marker, an address with escapes is read with its extension. -/
theorem complete_plainMarker_suffix
    (decoder : resolver.decodeSource = Source.decoder resolver.config.baseUrl)
    (extension? : Option String)
    (readable : ∀ extension ∈ extension?, extension ≠ "" ∧ '@' ∉ extension.toList)
    (outcome : Outcome) :
    resolver.complete outcome
        (Source.plainMarker :: Text.split "/" (url ++ Source.suffix "@" extension?)) =
      (outcome.andThen (finish { url, extension? })).answer (resolver.config.baseUrl ++ address) := by
  have read : resolver.decodeSource
      (Source.plainMarker :: Text.split "/" (url ++ Source.suffix "@" extension?)) =
        .ok { url := resolver.config.baseUrl ++ address, extension? } := by
    rw [decoder, Source.decoder_eq_ok_iff, Source.decode_plainMarker_cons]
    exact Source.ofEncoded_append_extension (d := '@') rfl given unmarked unescaped readable
  exact complete_of_decodeSource read

theorem complete_plainMarker
    (decoder : resolver.decodeSource = Source.decoder resolver.config.baseUrl) (outcome : Outcome) :
    resolver.complete outcome (Source.plainMarker :: Text.split "/" url) =
      outcome.answer (resolver.config.baseUrl ++ address) := by
  have whole := complete_plainMarker_suffix given unmarked unescaped decoder none nofun outcome
  rwa [Source.suffix, String.append_empty, andThen_finish_of_none] at whole

end Address

/-- A directive for the format is read back from a segment of its own. -/
theorem ofSegment?_segment_format {separator : Char} (other : separator ≠ '/') {name : String}
    (named : name ∈ (Keyword.setting .format).names) (disjoint : separator ∉ name.toList)
    {extension : String} (slash : '/' ∉ extension.toList) (apart : separator ∉ extension.toList) :
    let directive : Directive := { name, arguments := [extension] }
    '/' ∉ (directive.segment (String.singleton separator)).toList ∧
      Directive.ofSegment? (String.singleton separator)
        (directive.segment (String.singleton separator)) = some directive := by
  intro directive
  have writable : directive.Writable separator := by
    refine ⟨List.cons_ne_nil _ _, ?_, ?_⟩
    · simp [directive, disjoint, apart]
    · simp [directive, Keyword.slash_not_mem_of_mem_names named, slash]
  exact ⟨writable.slash_not_mem_segment other, writable.ofSegment?_segment⟩

/-- An extension behind a plain source is a directive for the format behind all others, by whichever
of its names that directive is asked for. Both requests are answered by what the directives come to,
with that one as the last, and by the address. -/
theorem resolve_extension (resolver : Resolver) (mode : resolver.config.onlyPresets = false)
    (decoder : resolver.decodeSource = Source.decoder resolver.config.baseUrl)
    (separator : Char) (single : resolver.config.separator = String.singleton separator)
    (other : separator ≠ '/') (marker : separator ∉ Source.plainMarker.toList)
    (name : String) (named : name ∈ (Keyword.setting .format).names)
    (disjoint : separator ∉ name.toList)
    (before : List String)
    (directives : ∀ segment ∈ before, '/' ∉ segment.toList ∧ separator ∈ segment.toList)
    (url address : String) (given : url ≠ "") (unmarked : '@' ∉ url.toList)
    (unescaped : Source.unescape? url = some address)
    (extension : String) (extended : extension ≠ "")
    (absent : ∀ c ∈ ['/', '@', separator], c ∉ extension.toList)
    (now : Int) (headers : Headers) :
    let format : Directive := { name, arguments := [extension] }
    let segment := format.segment resolver.config.separator
    let outcome := (resolver.defaults now headers).andThen (resolver.presets.run now
      (before.filterMap (Directive.ofSegment? resolver.config.separator) ++ [format]))
    resolver.resolve now headers
        ("/" ++ "/".intercalate (before ++ [Source.plainMarker, url ++ "@" ++ extension])) =
      resolver.resolve now headers
        ("/" ++ "/".intercalate (before ++ [segment, Source.plainMarker, url])) ∧
    resolver.resolve now headers
        ("/" ++ "/".intercalate (before ++ [segment, Source.plainMarker, url])) =
      outcome.answer (resolver.config.baseUrl ++ address) := by
  intro format segment outcome
  have stops : ¬ resolver.config.separator.toList <:+: Source.plainMarker.toList := by
    rw [single, String.toList_singleton, List.singleton_infix_iff]
    exact marker
  have read : ∀ segment ∈ before, '/' ∉ segment.toList ∧
      Directive.ofSegment? resolver.config.separator segment ≠ none := by
    rw [single]
    intro segment mem
    obtain ⟨slash, within⟩ := directives segment mem
    exact ⟨slash, Directive.ofSegment?_singleton_ne_none within⟩
  have readBack := ofSegment?_segment_format other named disjoint (absent '/' (by simp))
    (absent separator (by simp))
  rw [← single] at readBack
  obtain ⟨slash, last⟩ := readBack
  have more : ∀ piece ∈ before ++ [segment], '/' ∉ piece.toList ∧
      Directive.ofSegment? resolver.config.separator piece ≠ none := by
    refine List.forall_mem_append.2 ⟨read, List.forall_mem_singleton.2 ⟨slash, ?_⟩⟩
    rw [last]
    exact Option.some_ne_none _
  have answered : resolver.resolve now headers
      ("/" ++ "/".intercalate (before ++ [segment, Source.plainMarker, url])) =
        outcome.answer (resolver.config.baseUrl ++ address) := by
    rw [List.append_cons, resolve_plainMarker mode stops more,
      complete_plainMarker given unmarked unescaped decoder, List.filterMap_append,
      List.filterMap_cons_some last, List.filterMap_nil]
  refine ⟨?_, answered⟩
  have readable : ∀ text ∈ some extension, text ≠ "" ∧ '@' ∉ text.toList := by
    rintro _ ⟨⟩
    exact ⟨extended, absent '@' (by simp)⟩
  have suffixed : url ++ "@" ++ extension = url ++ Source.suffix "@" (some extension) :=
    String.append_assoc ..
  rw [answered, suffixed, resolve_plainMarker mode stops read,
    complete_plainMarker_suffix given unmarked unescaped decoder (some extension) readable,
    ← andThen_run_append_format named]

/-- An address with an escape, an empty segment and the separator in it, behind a directive for
another format. -/
theorem resolve_extension_webp :
    let outcome := (plain.defaults 0 []).andThen (plain.presets.run 0
      [{ name := "rs", arguments := ["fill", "300"] }, { name := "f", arguments := ["png"] },
        { name := "f", arguments := ["webp"] }])
    plain.resolve 0 [] "/rs:fill:300/f:png/plain/a%20b//c:d@webp" =
        plain.resolve 0 [] "/rs:fill:300/f:png/f:webp/plain/a%20b//c:d" ∧
      plain.resolve 0 [] "/rs:fill:300/f:png/f:webp/plain/a%20b//c:d" =
        outcome.answer "a b//c:d" := by
  have directives : ∀ segment ∈ ["rs:fill:300", "f:png"],
      '/' ∉ segment.toList ∧ ':' ∈ segment.toList := by decide
  exact resolve_extension plain rfl rfl ':' rfl (by decide) (by decide) "f" (by decide) (by decide)
    ["rs:fill:300", "f:png"] directives "a%20b//c:d" "a b//c:d" (by decide) (by decide) (by decide)
    "webp" (by decide) (by simp) 0 []

end ImageRequest.Resolver

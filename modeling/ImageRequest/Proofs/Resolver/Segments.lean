import ImageRequest.Proofs.Directive
import ImageRequest.Proofs.Resolver.Signed

/-!
# Requests by their segments

Where directives are allowed, a path is taken apart at its slashes, the leading segments with the
separator in them are the directives, and the others are the source (`resolve_intercalate`). What a
request is answered then depends on what the directives do, and not on how they are written.
-/

namespace ImageRequest.Resolver

variable {resolver : Resolver} {now : Int} {headers : Headers} {path : String}

/-- A path with something behind the slash that it may begin with is not empty. -/
theorem Stripped.not_empty {text : String} (stripped : Stripped path text) (some : text ≠ "") :
    ¬ (path = "" ∨ path = "/") := by
  rintro (rfl | rfl)
  · have nothing : relative "" = "" := rfl
    exact some (stripped.relative_eq.symm.trans nothing)
  · have nothing : relative "/" = "" := rfl
    exact some (stripped.relative_eq.symm.trans nothing)

/-- A path that is joined from texts is resolved by the segments of these texts. -/
theorem resolve_intercalate (mode : resolver.config.onlyPresets = false) {texts : List String}
    (some : texts ≠ []) (given : "/".intercalate texts ≠ "")
    (stripped : Stripped path ("/".intercalate texts)) :
    resolver.resolve now headers path =
      resolver.resolveDirectives now headers (texts.flatMap (Text.split "/")) := by
  have slash : "/".toList = ['/'] := rfl
  rw [resolve, if_neg (stripped.not_empty given), stripped.relative_eq,
    Text.split_intercalate_eq_flatMap slash some, mode]
  rfl

/-- Leading segments that are directives are run, and the others are resolved behind them. -/
theorem resolveDirectives_append {before : List String}
    (directives : ∀ segment ∈ before,
      Directive.ofSegment? resolver.config.separator segment ≠ none) (rest : List String) :
    resolver.resolveDirectives now headers (before ++ rest) =
      resolver.complete
        ((resolver.defaults now headers).andThen (resolver.presets.run now
          (before.filterMap (Directive.ofSegment? resolver.config.separator) ++
            (Directive.leading resolver.config.separator rest).1)))
        (Directive.leading resolver.config.separator rest).2 := by
  rw [resolveDirectives, Directive.leading_append directives]

/-- A path of directives in front of a source. The directives may be written by texts that hold
several of them. -/
theorem resolve_intercalate_source (mode : resolver.config.onlyPresets = false)
    {texts : List String} (some : texts ≠ [])
    (directives : ∀ segment ∈ texts.flatMap (Text.split "/"),
      Directive.ofSegment? resolver.config.separator segment ≠ none) {source : String}
    (stops : ∀ segment ∈ (Text.split "/" source).head?,
      ¬ resolver.config.separator.toList <:+: segment.toList)
    (stripped : Stripped path ("/".intercalate (texts ++ [source]))) :
    resolver.resolve now headers path =
      resolver.complete
        ((resolver.defaults now headers).andThen (resolver.presets.run now
          ((texts.flatMap (Text.split "/")).filterMap
            (Directive.ofSegment? resolver.config.separator))))
        (Text.split "/" source) := by
  have given : "/".intercalate (texts ++ [source]) ≠ "" := by
    obtain ⟨text, texts, rfl⟩ := List.exists_cons_of_ne_nil some
    exact Text.intercalate_cons_ne_empty (by decide) (.inr (by simp))
  rw [resolve_intercalate mode (by simp) given stripped, List.flatMap_append,
    List.flatMap_singleton, resolveDirectives_append directives, Directive.leading_eq_nil stops,
    List.append_nil]

end ImageRequest.Resolver

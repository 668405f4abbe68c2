import ImageRequest.Proofs.Resolver.Request
import ImageRequest.Proofs.Source.Address

/-!
# Addresses of resolved requests

A request that goes through has an address behind the base address, unless its source is written as
padding alone: that one resolves to the base address itself (`address_eq_empty_iff`). The path `/=`
is such a request (`address_eq_empty_plain`).
-/

namespace ImageRequest

/-- The address that some segments encode stands behind the base address, and it is empty exactly if
the segments are padding. -/
def Source.Encodes (segments : List String) (baseUrl url : String) : Prop :=
  ∃ address, url = baseUrl ++ address ∧ (address = "" ↔ IsPadding segments)

namespace Resolver

variable {resolver : Resolver} {now : Int} {headers : Headers} {path : String}

theorem encodes_of_resolve {baseUrl : String}
    (decoder : resolver.decodeSource = Source.decoder baseUrl) {resolved : ResolvedRequest}
    (ok : (resolver.resolve now headers path).result = .ok resolved) :
    Source.Encodes (resolver.sourceSegments path) baseUrl resolved.url := by
  obtain ⟨-, source, decoded, -, rfl⟩ := resolve_eq_ok.1 ok
  rw [decoder, Source.decoder_eq_ok_iff] at decoded
  exact Source.exists_address_of_decode decoded

/-- What is read as a source has an address behind the base address, and so has a request that goes
through, with a signature or without. The address is empty exactly if the segments that encode it
are padding. -/
theorem address_eq_empty_iff (baseUrl : String) :
    (∀ segments source, Source.decode baseUrl segments = .ok source →
      Source.Encodes segments baseUrl source.url) ∧
    (∀ resolver : Resolver, resolver.decodeSource = Source.decoder baseUrl →
      ∀ now headers path resolved,
        ((resolver.resolve now headers path).result = .ok resolved →
          Source.Encodes (resolver.sourceSegments path) baseUrl resolved.url) ∧
        ((resolver.resolveSigned now headers path).result = .ok resolved →
          ∃ signature unsigned, splitSignature? path = some (signature, unsigned) ∧
            Source.Encodes (resolver.sourceSegments unsigned) baseUrl resolved.url)) := by
  constructor
  · intro segments source read
    exact Source.exists_address_of_decode read
  · intro resolver decoder now headers path resolved
    constructor
    · intro ok
      exact encodes_of_resolve decoder ok
    · intro ok
      obtain ⟨signature, unsigned, split, ok⟩ := resolve_of_resolveSigned ok
      exact ⟨signature, unsigned, split, encodes_of_resolve decoder ok⟩

/-- Padding behind some digits is passed over. -/
theorem address_padded_plain :
    plain.decodeSource = Source.decoder plain.config.baseUrl ∧
    ∃ resolved, (plain.resolve 0 [] "/YQ==").result = .ok resolved ∧ resolved.url = "a" ∧
      Source.Encodes ["YQ=="] "" resolved.url ∧ ¬ Source.IsPadding ["YQ=="] := by
  have nothing : plain.agenda "/YQ==" = [] := by decide
  have read : Source.decode "" ["YQ=="] = .ok { url := "a", extension? := none } := by decide +kernel
  have ok : (plain.resolve 0 [] "/YQ==").result =
      .ok { options := plain.initialOptions [], url := "a" } :=
    resolve_of_agenda_eq_nil (by decide) nothing (Source.decoder_eq_ok_iff.2 read) rfl
  have encodes := ((address_eq_empty_iff "").2 plain rfl 0 [] "/YQ==" _).1 ok
  refine ⟨rfl, _, ok, rfl, encodes, ?_⟩
  rintro ⟨-, padding⟩
  exact absurd (padding 'Y' (by decide)) (by decide)

/-- A path of padding alone goes through with the base address and nothing behind it. -/
theorem address_eq_empty_plain :
    plain.decodeSource = Source.decoder plain.config.baseUrl ∧
      Source.decode plain.config.baseUrl ["="] =
        .ok { url := plain.config.baseUrl, extension? := none } ∧
      ∃ resolved, (plain.resolve 0 [] "/=").result = .ok resolved ∧
        resolved.url = plain.config.baseUrl := by
  have nothing : plain.agenda "/=" = [] := by decide
  have read : Source.decode "" ["="] = .ok { url := "", extension? := none } := by decide +kernel
  have ok : (plain.resolve 0 [] "/=").result =
      .ok { options := plain.initialOptions [], url := "" } :=
    resolve_of_agenda_eq_nil (by decide) nothing (Source.decoder_eq_ok_iff.2 read) rfl
  exact ⟨rfl, read, _, ok, rfl⟩

end Resolver

end ImageRequest

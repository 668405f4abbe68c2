import ImageRequest.Proofs.Resolver.Request
import ImageRequest.Proofs.Verifier

/-!
# The gate in front of signed paths

A path with a signature in front is taken apart at its first slash, but for one that it begins with.
What stands behind is checked against the signature and resolved, the very same text both times, so
that a path that passes the gate has the answer of the path that was signed (`resolveSigned_eq`).
-/

namespace ImageRequest.Resolver

/-! ### Paths and what they are made up of -/

/-- A path, and the text that is left of it without a slash that it begins with. -/
inductive Stripped : String → String → Prop
  | slash (text : String) : Stripped ("/" ++ text) text
  | noSlash {text : String} : text.toList.head? ≠ some '/' → Stripped text text

variable {path text signature rest : String}

theorem Stripped.relative_eq (stripped : Stripped path text) : relative path = text := by
  cases stripped with
  | slash text =>
      have begins : ("/" ++ text).toList = '/' :: text.toList := by simp
      rw [relative, begins]
      exact String.ofList_toList
  | noSlash other =>
      rw [relative]
      split
      · rename_i begins
        exact absurd (begins ▸ rfl) other
      · rfl

theorem stripped_relative (path : String) : Stripped path (relative path) := by
  rw [relative]
  split
  · rename_i rest begins
    have joined : path = "/" ++ String.ofList rest := by
      rw [← String.toList_inj, begins]
      simp
    rw [joined]
    exact .slash _
  · rename_i other
    refine .noSlash fun begins => ?_
    obtain ⟨rest, same⟩ := List.head?_eq_some_iff.1 begins
    exact other rest same

theorem splitSignature?_of_not_mem (stripped : Stripped path text) (absent : '/' ∉ text.toList) :
    splitSignature? path = none := by
  rw [splitSignature?, stripped.relative_eq, Text.splitOnce_of_not_mem absent]

/-- The signature and what it signs, which begins with a slash, if there is anything. -/
theorem splitSignature?_append (stripped : Stripped path (signature ++ "/" ++ rest))
    (absent : '/' ∉ signature.toList) :
    splitSignature? path = if rest = "" then none else some (signature, "/" ++ rest) := by
  have cut : Text.splitOnce '/' (signature ++ "/" ++ rest) = some (signature, rest) :=
    Text.splitOnce_append absent
  rw [splitSignature?, stripped.relative_eq, cut]

theorem exists_of_splitSignature? {unsigned : String}
    (split : splitSignature? path = some (signature, unsigned)) :
    ∃ rest, Stripped path (signature ++ "/" ++ rest) ∧ '/' ∉ signature.toList ∧ rest ≠ "" ∧
      unsigned = "/" ++ rest := by
  have stripped := stripped_relative path
  by_cases within : '/' ∈ (relative path).toList
  · obtain ⟨before, after, absent, joined⟩ := Text.exists_eq_append_of_mem within
    rw [joined] at stripped
    rw [splitSignature?_append stripped absent] at split
    split at split
    · cases split
    · rename_i more
      cases split
      exact ⟨after, stripped, absent, more, rfl⟩
  · rw [splitSignature?_of_not_mem stripped within] at split
    cases split

/-! ### Failures -/

variable {resolver : Resolver} {now : Int} {headers : Headers}

theorem exists_rejected_of_complete {outcome : Outcome} {segments : List String}
    {error : RequestError} (failed : (resolver.complete outcome segments).result = .error error) :
    ∃ rejection, error = .rejected rejection := by
  rw [complete] at failed
  split at failed
  · cases failed
    exact ⟨_, rfl⟩
  · split at failed
    · cases failed
      exact ⟨_, rfl⟩
    · dsimp only at failed
      split at failed
      · cases failed
        exact ⟨_, rfl⟩
      · cases failed

/-- Without a signature, every failure is that something was not found. -/
theorem status_of_resolve {error : RequestError}
    (failed : (resolver.resolve now headers path).result = .error error) : error.status = 404 := by
  by_cases empty : path = "" ∨ path = "/"
  · rw [resolve, if_pos empty] at failed
    cases failed
    rfl
  · rw [resolve_eq_complete empty] at failed
    obtain ⟨rejection, rfl⟩ := exists_rejected_of_complete failed
    rfl

/-! ### The gate -/

/-- Once a path is taken apart, its signature decides: either that is the failure, or the answer is
that of what is signed. -/
theorem resolveSigned_append (stripped : Stripped path (signature ++ "/" ++ rest))
    (absent : '/' ∉ signature.toList) (more : rest ≠ "") :
    (∀ error, resolver.verifier.verify signature ("/" ++ rest) = .error error →
      resolver.resolveSigned now headers path =
        { warnings := [], result := .error (.badSignature error) }) ∧
    (resolver.verifier.verify signature ("/" ++ rest) = .ok () →
      resolver.resolveSigned now headers path = resolver.resolve now headers ("/" ++ rest)) := by
  have split : splitSignature? path = some (signature, "/" ++ rest) := by
    rw [splitSignature?_append stripped absent, if_neg more]
  constructor
  · intro error bad
    simp only [resolveSigned, split, bad]
  · intro good
    simp only [resolveSigned, split, good]

/-- What is signed with the first pair passes. -/
theorem exists_resolveSigned_sign (enabled : resolver.verifier.isEnabled = true) (more : rest ≠ "") :
    ∃ signature, resolver.verifier.sign ("/" ++ rest) = some signature ∧
      resolver.resolveSigned now headers ("/" ++ signature ++ "/" ++ rest) =
        resolver.resolve now headers ("/" ++ rest) := by
  obtain ⟨signature, signed, absent, good⟩ := Verifier.exists_sign enabled ("/" ++ rest)
  have joined : "/" ++ signature ++ "/" ++ rest = "/" ++ (signature ++ "/" ++ rest) := by
    simp only [String.append_assoc]
  refine ⟨signature, signed, ?_⟩
  rw [joined]
  exact (resolveSigned_append (.slash _) absent more).2 good

/-- A failure behind the gate is forbidden exactly if the signature is not good. -/
theorem status_of_resolveSigned {error : RequestError}
    (failed : (resolver.resolveSigned now headers path).result = .error error) :
    error.status = 404 ∨
      ∃ signature rest reason, Stripped path (signature ++ "/" ++ rest) ∧ '/' ∉ signature.toList ∧
        rest ≠ "" ∧ resolver.verifier.verify signature ("/" ++ rest) = .error reason ∧
        error = .badSignature reason := by
  rw [resolveSigned] at failed
  split at failed
  · cases failed
    exact .inl rfl
  · rename_i signature unsigned split
    obtain ⟨rest, stripped, absent, more, rfl⟩ := exists_of_splitSignature? split
    split at failed
    · rename_i reason bad
      cases failed
      exact .inr ⟨signature, rest, reason, stripped, absent, more, bad, rfl⟩
    · exact .inl (status_of_resolve failed)

/-- The gate lets a path pass exactly if its signature is good, and answers what is signed; a path
without signature, or with nothing behind it, is empty. With a key, there is a signature for all
that is not empty. Only a signature that is not good is forbidden; what else fails, with a signature
or without, was not found. -/
theorem resolveSigned_eq (resolver : Resolver) (now : Int) (headers : Headers) :
    (∀ path text, Stripped path text →
      ('/' ∉ text.toList ∨ ∃ signature, '/' ∉ signature.toList ∧ text = signature ++ "/") →
      resolver.resolveSigned now headers path =
        { warnings := [], result := .error (.emptyPath path) }) ∧
    (∀ path signature rest, Stripped path (signature ++ "/" ++ rest) →
      '/' ∉ signature.toList → rest ≠ "" →
      (∀ error, resolver.verifier.verify signature ("/" ++ rest) = .error error →
        resolver.resolveSigned now headers path =
          { warnings := [], result := .error (.badSignature error) }) ∧
      (resolver.verifier.verify signature ("/" ++ rest) = .ok () →
        resolver.resolveSigned now headers path = resolver.resolve now headers ("/" ++ rest))) ∧
    (resolver.verifier.isEnabled = true → ∀ rest, rest ≠ "" →
      ∃ signature, resolver.verifier.sign ("/" ++ rest) = some signature ∧
        resolver.resolveSigned now headers ("/" ++ signature ++ "/" ++ rest) =
          resolver.resolve now headers ("/" ++ rest)) ∧
    (∀ path error, (resolver.resolveSigned now headers path).result = .error error →
      (error.status = 403 ↔ ∃ signature rest reason, Stripped path (signature ++ "/" ++ rest) ∧
        '/' ∉ signature.toList ∧ rest ≠ "" ∧
        resolver.verifier.verify signature ("/" ++ rest) = .error reason) ∧
      (error.status ≠ 403 → error.status = 404)) ∧
    (∀ path error, (resolver.resolve now headers path).result = .error error →
      error.status = 404) := by
  refine ⟨fun path text stripped nothing => ?empty, fun path signature rest stripped absent more => ?gate,
    fun enabled rest more => exists_resolveSigned_sign enabled more,
    fun path error failed => ⟨⟨fun forbidden => ?bad, fun bad => ?forbidden⟩, fun other => ?found⟩,
    fun path error failed => status_of_resolve failed⟩
  case empty =>
    have unsplit : splitSignature? path = none := by
      obtain absent | ⟨signature, absent, rfl⟩ := nothing
      · exact splitSignature?_of_not_mem stripped absent
      · have behind : signature ++ "/" = signature ++ "/" ++ "" := (String.append_empty).symm
        rw [behind] at stripped
        rw [splitSignature?_append stripped absent, if_pos rfl]
    rw [resolveSigned, unsplit]
  case gate => exact resolveSigned_append stripped absent more
  case bad =>
    obtain found | ⟨signature, rest, reason, stripped, absent, more, bad, -⟩ :=
      status_of_resolveSigned failed
    · rw [found] at forbidden
      cases forbidden
    · exact ⟨signature, rest, reason, stripped, absent, more, bad⟩
  case forbidden =>
    obtain ⟨signature, rest, reason, stripped, absent, more, bad⟩ := bad
    rw [(resolveSigned_append stripped absent more).1 reason bad] at failed
    cases failed
    rfl
  case found =>
    obtain found | ⟨-, -, reason, -, -, -, -, rfl⟩ := status_of_resolveSigned failed
    · exact found
    · exact absurd rfl other

/-- The plain resolver behind a gate. -/
def gated : Resolver :=
  { plain with verifier := .rotated }

theorem resolveSigned_gated :
    gated.resolveSigned 0 [] "/w/" = { warnings := [], result := .error (.emptyPath "/w/") } ∧
      gated.resolveSigned 0 [] "/w/plain/a" =
        { warnings := [], result := .error (.badSignature .notBase64) } ∧
      ∃ signature, gated.verifier.sign ("/" ++ "plain/a") = some signature ∧
        gated.resolveSigned 0 [] ("/" ++ signature ++ "/" ++ "plain/a") =
          gated.resolve 0 [] ("/" ++ "plain/a") := by
  obtain ⟨empty, gate, signed, -⟩ := resolveSigned_eq gated 0 []
  refine ⟨empty "/w/" "w/" (.slash "w/") (.inr ⟨"w", by decide, rfl⟩), ?_, ?_⟩
  · have begun : Stripped "/w/plain/a" ("w" ++ "/" ++ "plain/a") := .slash "w/plain/a"
    obtain ⟨fails, -⟩ := gate "/w/plain/a" "w" "plain/a" begun (by decide) (by decide)
    have bad : gated.verifier.verify "w" ("/" ++ "plain/a") = .error .notBase64 := by decide +kernel
    exact fails .notBase64 bad
  · exact signed rfl "plain/a" (by decide)

end ImageRequest.Resolver

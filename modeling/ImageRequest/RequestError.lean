import ImageRequest.Rejection
import ImageRequest.Verifier

/-!
# Failures of requests

What a request can fail with, and what the client is told. The full text is for the log; the client
only learns that the address or the signature is bad.
-/

namespace ImageRequest

/-- Why a request fails. -/
inductive RequestError where
  /-- There is nothing in the path. -/
  | emptyPath (path : String)
  /-- A directive, a preset or the source is rejected. -/
  | rejected (rejection : Rejection)
  /-- The signature of the path is not good. -/
  | badSignature (error : SignatureError)
deriving Repr, DecidableEq

namespace RequestError

/-- The full text of the failure. -/
def message : RequestError → String
  | emptyPath path => "Invalid path: " ++ path
  | rejected rejection => rejection.message
  | badSignature error => "Invalid signature: " ++ error.message

/-- The status code of the response. -/
def status : RequestError → Nat
  | badSignature _ => 403
  | _ => 404

/-- The text in the response. -/
def publicMessage : RequestError → String
  | badSignature _ => "Forbidden"
  | _ => "Invalid URL"

/-- Whether the request was valid up to a time that has passed. -/
def isExpired (error : RequestError) : Bool :=
  error = rejected .expired

/-- The rejection behind the failure. -/
def rejection? : RequestError → Option Rejection
  | rejected rejection => some rejection
  | _ => none

end RequestError

end ImageRequest

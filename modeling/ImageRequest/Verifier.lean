import ImageRequest.Codec.Base64Url
import ImageRequest.Codec.Hex
import ImageRequest.Config
import ImageRequest.Digest.Hmac

/-!
# Signatures of paths

A signed path carries a signature in front: the first bytes of the digest of a salt and the path,
keyed with a secret. Several pairs of a key and a salt may be configured, and a signature made with
any of them is good. Without any pair every signature is good.
-/

namespace ImageRequest

/-- A key with the salt that goes with it. -/
structure SigningPair where
  key : List UInt8
  salt : List UInt8
deriving Repr, DecidableEq

/-- Why signing cannot be set up. -/
inductive SigningError where
  | signatureSize (size : Nat)
  | countMismatch (keys salts : Nat)
  | invalidKey (index : Nat) (error : Codec.Hex.Error)
  | invalidSalt (index : Nat) (error : Codec.Hex.Error)
deriving Repr, DecidableEq

/-- The text of the error. -/
def SigningError.message : SigningError → String
  | .signatureSize size => "Signature size must be between 1 and 32, got " ++ toString size
  | .countMismatch keys salts =>
    "Number of keys (" ++ toString keys ++ ") and salts (" ++ toString salts ++ ") must match"
  | .invalidKey index error => "Invalid key at index " ++ toString index ++ ": " ++ error.message
  | .invalidSalt index error => "Invalid salt at index " ++ toString index ++ ": " ++ error.message

/-- Why a signature is not good. -/
inductive SignatureError where
  | notBase64
  | mismatch
deriving Repr, DecidableEq

/-- The text of the error. -/
def SignatureError.message : SignatureError → String
  | .notBase64 => "signature is not valid base64url"
  | .mismatch => "signature mismatch"

/-- The pairs that sign paths, and the length of signatures in bytes. -/
structure Verifier where
  pairs : List SigningPair
  signatureSize : Nat
deriving Repr, DecidableEq

/-- Read a key and a salt, the key first. -/
def SigningPair.ofHex (index : Nat) (key salt : String) : Except SigningError SigningPair := do
  let key ← (Codec.Hex.decode key).mapError (.invalidKey index)
  let salt ← (Codec.Hex.decode salt).mapError (.invalidSalt index)
  return { key, salt }

/-- Read several pairs, counted from an index on. -/
def SigningPair.ofHexList (index : Nat) :
    List (String × String) → Except SigningError (List SigningPair)
  | [] => .ok []
  | (key, salt) :: rest => do
    let pair ← ofHex index key salt
    let pairs ← ofHexList (index + 1) rest
    return pair :: pairs

namespace Verifier

/-- Set up signing. A wrong length is reported before a wrong number of keys, and that before any
key that is not hexadecimal. -/
def ofConfig (config : SecurityConfig) : Except SigningError Verifier := do
  if config.signatureSize = 0 ∨ 32 < config.signatureSize then
    .error (.signatureSize config.signatureSize)
  else if config.keys.length ≠ config.salts.length then
    .error (.countMismatch config.keys.length config.salts.length)
  else
    let pairs ← SigningPair.ofHexList 0 (config.keys.zip config.salts)
    return { pairs, signatureSize := config.signatureSize }

/-- Whether signatures are needed. -/
def isEnabled (verifier : Verifier) : Bool :=
  !verifier.pairs.isEmpty

/-- The bytes that sign a path with a pair. -/
def signatureBytes (verifier : Verifier) (path : String) (pair : SigningPair) : List UInt8 :=
  (Digest.Hmac.digest pair.key (pair.salt ++ Text.Utf8.encode path)).take verifier.signatureSize

/-- The signature of a path with the first pair. -/
def sign (verifier : Verifier) (path : String) : Option String :=
  verifier.pairs.head?.map fun pair =>
    String.ofList (Codec.Base64Url.encode (verifier.signatureBytes path pair))

/-- Compare two byte strings. Of byte strings of one length, the differences of all bytes are
gathered before any of them is looked at, so that the time taken does not tell how many first bytes
agree. -/
def sameBytes (first second : List UInt8) : Bool :=
  first.length == second.length &&
    (List.zipWith (· ^^^ ·) first second).foldl (· ||| ·) 0 == 0

/-- Check the signature of a path. Padding at its end is passed over. -/
def verify (verifier : Verifier) (signature path : String) : Except SignatureError Unit :=
  if verifier.isEnabled then
    match Codec.Base64Url.decode .zero (Text.dropTrailing '=' signature.toList) with
    | none => .error .notBase64
    | some bytes =>
      if verifier.pairs.any fun pair => sameBytes bytes (verifier.signatureBytes path pair) then
        .ok ()
      else .error .mismatch
  else .ok ()

end Verifier

end ImageRequest

import ImageRequest.Digest.Sha256

/-!
# Keyed digests

The keyed digest of a message: the digest of an outer key before the digest of an inner key before
the message. Both keys are the secret, brought to the length of a block, with fixed bits turned.
-/

namespace ImageRequest.Digest.Hmac

/-- The secret in the length of one block: a longer secret is replaced by its digest, and zeros fill
up the rest. -/
def blockKey (secret : List UInt8) : List UInt8 :=
  let key := if 64 < secret.length then Sha256.digest secret else secret
  key ++ List.replicate (64 - key.length) 0

/-- The keyed digest of a message. -/
def digest (secret message : List UInt8) : List UInt8 :=
  let key := blockKey secret
  let inner := Sha256.digest (key.map (· ^^^ 0x36) ++ message)
  Sha256.digest (key.map (· ^^^ 0x5c) ++ inner)

/-- A keyed digest has 32 bytes. -/
@[simp] theorem length_digest (secret message : List UInt8) :
    (digest secret message).length = 32 := by
  simp [digest]

end ImageRequest.Digest.Hmac

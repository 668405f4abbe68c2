import ImageRequest.Proofs.Codec.Base64Url
import ImageRequest.Proofs.Text.Split
import ImageRequest.Verifier

/-!
# Which signatures are good

A signature is good for a path if and only if it is, but for padding at its end, the text that one
of the configured pairs signs the path with. The digest behind it plays no part in this, other than
having as many bytes as signatures may have.
-/

namespace ImageRequest

/-! ### Comparison of byte strings -/

theorem foldl_or_eq_zero {bytes : List UInt8} {gathered : UInt8} :
    bytes.foldl (· ||| ·) gathered = 0 ↔ gathered = 0 ∧ ∀ byte ∈ bytes, byte = 0 := by
  induction bytes generalizing gathered with
  | nil => simp
  | cons byte bytes ih =>
      rw [List.foldl_cons, ih, UInt8.or_eq_zero_iff, List.forall_mem_cons, and_assoc]

/-- Byte strings of one length are equal if nowhere they differ. -/
theorem eq_of_zipWith_xor {first second : List UInt8} (same : first.length = second.length)
    (zero : ∀ byte ∈ List.zipWith (· ^^^ ·) first second, byte = 0) : first = second := by
  induction first generalizing second with
  | nil => exact (List.eq_nil_of_length_eq_zero same.symm).symm
  | cons byte first ih =>
      cases second with
      | nil => cases same
      | cons other second =>
          rw [List.zipWith_cons_cons] at zero
          obtain ⟨here, rest⟩ := List.forall_mem_cons.1 zero
          rw [UInt8.xor_eq_zero_iff.1 here, ih (Nat.succ.inj same) rest]

theorem zipWith_xor_self (bytes : List UInt8) :
    ∀ byte ∈ List.zipWith (· ^^^ ·) bytes bytes, byte = 0 := by
  induction bytes with
  | nil => exact nofun
  | cons byte bytes ih =>
      rw [List.zipWith_cons_cons]
      exact List.forall_mem_cons.2 ⟨UInt8.xor_self, ih⟩

namespace Verifier

/-- The comparison accepts equal byte strings and no others. -/
theorem sameBytes_iff {first second : List UInt8} : sameBytes first second = true ↔ first = second := by
  rw [sameBytes, Bool.and_eq_true, beq_iff_eq, beq_iff_eq, foldl_or_eq_zero]
  constructor
  · rintro ⟨same, -, zero⟩
    exact eq_of_zipWith_xor same zero
  · rintro rfl
    exact ⟨rfl, rfl, zipWith_xor_self first⟩

end Verifier

/-! ### The pairs of a configuration -/

/-- A key and a salt that a configuration gives, at the same place of its two lists. -/
def SecurityConfig.HasPair (config : SecurityConfig) (pair : SigningPair) : Prop :=
  ∃ texts ∈ config.keys.zip config.salts,
    Codec.Hex.decode texts.1 = .ok pair.key ∧ Codec.Hex.decode texts.2 = .ok pair.salt

namespace SigningPair

theorem ofHex_eq_ok {index : Nat} {key salt : String} {pair : SigningPair} :
    ofHex index key salt = .ok pair ↔
      Codec.Hex.decode key = .ok pair.key ∧ Codec.Hex.decode salt = .ok pair.salt := by
  rw [ofHex]
  cases Codec.Hex.decode key with
  | error error => simp [Except.mapError, bind, Except.bind]
  | ok keyBytes =>
      cases Codec.Hex.decode salt with
      | error error => simp [Except.mapError, bind, Except.bind]
      | ok saltBytes =>
          obtain ⟨key', salt'⟩ := pair
          simp [Except.mapError, bind, Except.bind, pure, Except.pure]

theorem ofHexList_cons_eq_ok {index : Nat} {key salt : String} {texts : List (String × String)}
    {pairs : List SigningPair} (read : ofHexList index ((key, salt) :: texts) = .ok pairs) :
    ∃ first rest, ofHex index key salt = .ok first ∧ ofHexList (index + 1) texts = .ok rest ∧
      pairs = first :: rest := by
  rw [ofHexList] at read
  cases first : ofHex index key salt with
  | error error => simp [first, bind, Except.bind] at read
  | ok pair =>
      cases rest : ofHexList (index + 1) texts with
      | error error => simp [first, rest, bind, Except.bind] at read
      | ok others =>
          simp only [first, rest, bind, Except.bind, pure, Except.pure, Except.ok.injEq] at read
          exact ⟨pair, others, rfl, rfl, read.symm⟩

theorem mem_of_ofHexList {index : Nat} {texts : List (String × String)}
    {pairs : List SigningPair} (read : ofHexList index texts = .ok pairs) (pair : SigningPair) :
    pair ∈ pairs ↔ ∃ text ∈ texts,
      Codec.Hex.decode text.1 = .ok pair.key ∧ Codec.Hex.decode text.2 = .ok pair.salt := by
  induction texts generalizing index pairs with
  | nil =>
      cases read
      simp
  | cons text texts ih =>
      obtain ⟨first, rest, readFirst, readRest, rfl⟩ := ofHexList_cons_eq_ok read
      have isFirst : pair = first ↔
          Codec.Hex.decode text.1 = .ok pair.key ∧ Codec.Hex.decode text.2 = .ok pair.salt := by
        rw [← ofHex_eq_ok, readFirst, Except.ok.injEq, eq_comm]
      simp only [List.mem_cons, isFirst, ih readRest, exists_eq_or_imp]

/-- The text that signs a path: the first bytes of the keyed digest of the salt and the path, in
Base64 without padding. -/
def signature (pair : SigningPair) (size : Nat) (path : String) : String :=
  String.ofList (Codec.Base64Url.encode
    ((Digest.Hmac.digest pair.key (pair.salt ++ Text.Utf8.encode path)).take size))

end SigningPair

namespace Verifier

theorem ofConfig_eq_ok {config : SecurityConfig} {verifier : Verifier}
    (made : ofConfig config = .ok verifier) :
    0 < config.signatureSize ∧ config.signatureSize ≤ 32 ∧
      config.keys.length = config.salts.length ∧
      SigningPair.ofHexList 0 (config.keys.zip config.salts) = .ok verifier.pairs ∧
      verifier.signatureSize = config.signatureSize := by
  rw [ofConfig] at made
  split at made
  · cases made
  · rename_i size
    split at made
    · cases made
    · rename_i count
      cases read : SigningPair.ofHexList 0 (config.keys.zip config.salts) with
      | error error => simp [read, bind, Except.bind] at made
      | ok pairs =>
          simp only [read, bind, Except.bind, pure, Except.pure, Except.ok.injEq] at made
          subst made
          exact ⟨by omega, by omega, Decidable.not_not.1 count, rfl, rfl⟩

/-- There are pairs if there are keys. -/
theorem pairs_eq_nil_iff {config : SecurityConfig} {verifier : Verifier}
    (made : ofConfig config = .ok verifier) : verifier.pairs = [] ↔ config.keys = [] := by
  obtain ⟨-, -, count, read, -⟩ := ofConfig_eq_ok made
  constructor
  · intro empty
    cases keys : config.keys with
    | nil => rfl
    | cons key others =>
        cases salts : config.salts with
        | nil => simp [keys, salts] at count
        | cons salt rest =>
            rw [keys, salts, List.zip_cons_cons] at read
            obtain ⟨first, pairs, -, -, same⟩ := SigningPair.ofHexList_cons_eq_ok read
            cases empty.symm.trans same
  · intro empty
    rw [empty, List.zip_nil_left] at read
    exact (Except.ok.inj read).symm

theorem isEnabled_iff {verifier : Verifier} : verifier.isEnabled = true ↔ verifier.pairs ≠ [] := by
  rw [isEnabled, Bool.not_eq_true', List.isEmpty_eq_false_iff]

theorem mem_pairs_iff {config : SecurityConfig} {verifier : Verifier}
    (made : ofConfig config = .ok verifier) (pair : SigningPair) :
    pair ∈ verifier.pairs ↔ config.HasPair pair := by
  obtain ⟨-, -, -, read, -⟩ := ofConfig_eq_ok made
  exact SigningPair.mem_of_ofHexList read pair

/-! ### Good signatures -/

/-- A signature without the padding at its end. -/
def unpadded (signature : String) : String :=
  String.ofList (Text.dropTrailing '=' signature.toList)

theorem not_mem_signature {d : Char} (other : d ∉ Codec.Base64Url.digits) (pair : SigningPair)
    (size : Nat) (path : String) : d ∉ (pair.signature size path).toList := by
  rw [SigningPair.signature, String.toList_ofList]
  exact fun within => other (Codec.Base64Url.mem_digits_of_mem_encode d within)

/-- A signature that was made has no padding. -/
theorem unpadded_signature (pair : SigningPair) (size : Nat) (path : String) :
    unpadded (pair.signature size path) = pair.signature size path := by
  have absent := not_mem_signature (d := '=') (by decide) pair size path
  rw [unpadded, Text.dropTrailing_of_not_mem absent, String.ofList_toList]

/-- Signing is with the first pair. -/
theorem sign_eq (verifier : Verifier) (path : String) :
    verifier.sign path =
      verifier.pairs.head?.map fun pair => pair.signature verifier.signatureSize path := rfl

/-- Where signatures are needed, a signature is good if without padding it is that of some pair. -/
theorem verify_eq_ok {verifier : Verifier} {signature path : String} :
    verifier.verify signature path = .ok () ↔
      verifier.pairs = [] ∨ ∃ pair ∈ verifier.pairs,
        unpadded signature = pair.signature verifier.signatureSize path := by
  have written (pair : SigningPair) :
      unpadded signature = pair.signature verifier.signatureSize path ↔
        Codec.Base64Url.decode .zero (Text.dropTrailing '=' signature.toList) =
          some (verifier.signatureBytes path pair) := by
    rw [Codec.Base64Url.decode_zero_eq_some_iff]
    exact String.ofList_inj
  simp only [written]
  by_cases empty : verifier.pairs = []
  · simp [verify, isEnabled, empty]
  · have enabled : verifier.isEnabled = true := isEnabled_iff.2 empty
    cases read : Codec.Base64Url.decode .zero (Text.dropTrailing '=' signature.toList) with
    | none => simp [verify, enabled, empty, read]
    | some bytes => simp [verify, enabled, empty, read, sameBytes_iff]

/-- What any of the pairs signs a path with is good for it. -/
theorem verify_signature {verifier : Verifier} {pair : SigningPair} (within : pair ∈ verifier.pairs)
    (path : String) :
    verifier.verify (pair.signature verifier.signatureSize path) path = .ok () :=
  verify_eq_ok.2 (.inr ⟨pair, within, unpadded_signature pair _ path⟩)

/-- Where signatures are needed, they can be made, and what is made is good. -/
theorem exists_sign {verifier : Verifier} (enabled : verifier.isEnabled = true) (path : String) :
    ∃ signature, verifier.sign path = some signature ∧ '/' ∉ signature.toList ∧
      verifier.verify signature path = .ok () := by
  cases pairs : verifier.pairs with
  | nil => simp [isEnabled, pairs] at enabled
  | cons pair others =>
      have first : verifier.sign path = some (pair.signature verifier.signatureSize path) := by
        rw [sign_eq, pairs, List.head?_cons, Option.map_some]
      have absent := not_mem_signature (d := '/') (by decide) pair verifier.signatureSize path
      exact ⟨_, first, absent, verify_signature (pairs ▸ List.mem_cons_self) path⟩

/-- With keys, the bytes of an accepted signature are written in one way: by as many digits as the
length that is set asks for, and by no others if spare bits were passed over. -/
theorem unpadded_of_verify {config : SecurityConfig} {verifier : Verifier}
    (made : ofConfig config = .ok verifier) (keys : config.keys ≠ []) {signature path : String}
    (good : verifier.verify signature path = .ok ()) :
    ∃ bytes : List UInt8, bytes.length = config.signatureSize ∧
      (unpadded signature).toList = Codec.Base64Url.encode bytes := by
  obtain ⟨-, short, -, -, size⟩ := ofConfig_eq_ok made
  obtain empty | ⟨pair, -, same⟩ := verify_eq_ok.1 good
  · exact absurd ((pairs_eq_nil_iff made).1 empty) keys
  · refine ⟨_, ?_, by rw [same, SigningPair.signature, String.toList_ofList]⟩
    rw [List.length_take, Digest.Hmac.length_digest, size, Nat.min_eq_left short]

/-- A signature is good exactly if there are no keys, or if without padding it is the text that one
of the configured pairs signs the path with. So what is signed with the first pair, or with any
other, is good; and of the texts that stand for the same bytes only one is, which has no characters
but the digits and the length that is set. -/
theorem verify_eq_ok_iff_signature {config : SecurityConfig} {verifier : Verifier}
    (made : ofConfig config = .ok verifier) :
    (∀ signature path, verifier.verify signature path = .ok () ↔
      config.keys = [] ∨ ∃ pair, config.HasPair pair ∧
        unpadded signature = pair.signature config.signatureSize path) ∧
    (config.keys ≠ [] → ∀ path, ∃ signature, verifier.sign path = some signature ∧
      verifier.verify signature path = .ok ()) ∧
    (∀ pair, config.HasPair pair → ∀ path,
      verifier.verify (pair.signature config.signatureSize path) path = .ok ()) ∧
    (config.keys ≠ [] → ∀ signature path, verifier.verify signature path = .ok () →
      (∀ c ∈ (unpadded signature).toList, c ∈ Codec.Base64Url.digits) ∧
      (unpadded signature).toList.length = (4 * config.signatureSize + 2) / 3 ∧
      ∀ other, verifier.verify other path = .ok () →
        Codec.Base64Url.decode .any (unpadded other).toList =
          Codec.Base64Url.decode .any (unpadded signature).toList →
        unpadded other = unpadded signature) := by
  obtain ⟨-, -, -, -, size⟩ := ofConfig_eq_ok made
  refine ⟨fun signature path => ?exact, fun keys path => ?signed, fun pair given path => ?any,
    fun keys signature path good => ?one⟩
  case exact => rw [verify_eq_ok, pairs_eq_nil_iff made, size]; simp only [mem_pairs_iff made]
  case signed =>
    have needed : verifier.pairs ≠ [] := fun empty => keys ((pairs_eq_nil_iff made).1 empty)
    obtain ⟨signature, signed, -, good⟩ := exists_sign (isEnabled_iff.2 needed) path
    exact ⟨signature, signed, good⟩
  case any =>
    rw [← size]
    exact verify_signature ((mem_pairs_iff made pair).2 given) path
  case one =>
    obtain ⟨bytes, length, written⟩ := unpadded_of_verify made keys good
    refine ⟨?_, ?_, fun other accepted same => ?_⟩
    · rw [written]
      exact Codec.Base64Url.mem_digits_of_mem_encode
    · rw [written, Codec.Base64Url.length_encode, length]
    · obtain ⟨others, -, rewritten⟩ := unpadded_of_verify made keys accepted
      rw [written, rewritten, Codec.Base64Url.decode_encode, Codec.Base64Url.decode_encode,
        Option.some.injEq] at same
      rw [← String.toList_inj, written, rewritten, same]

/-- A new key in front of the one that it replaces. -/
def rotation : SecurityConfig :=
  { keys := ["6e6577", "736563726574"], salts := ["00", "68656c6c6f"], signatureSize := 8 }

/-- The key and the salt that are replaced. -/
def replaced : SigningPair :=
  { key := [0x73, 0x65, 0x63, 0x72, 0x65, 0x74], salt := [0x68, 0x65, 0x6c, 0x6c, 0x6f] }

/-- What is set up with both. -/
def rotated : Verifier :=
  { pairs := [{ key := [0x6e, 0x65, 0x77], salt := [0x00] }, replaced], signatureSize := 8 }

theorem verify_signature_replaced :
    ofConfig rotation = .ok rotated ∧ rotation.HasPair replaced ∧
      rotated.verify (replaced.signature 8 "/plain/a.jpg") "/plain/a.jpg" = .ok () := by
  have made : ofConfig rotation = .ok rotated := by decide +kernel
  have given : rotation.HasPair replaced :=
    ⟨("736563726574", "68656c6c6f"), by decide, by decide +kernel, by decide +kernel⟩
  obtain ⟨-, -, any, -⟩ := verify_eq_ok_iff_signature made
  exact ⟨made, given, any replaced given "/plain/a.jpg"⟩

end Verifier

end ImageRequest

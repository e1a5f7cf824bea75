import Axe.HardenedPlatform

namespace Axe.Hardened

/-!
# What an EVM transaction is meant to do

The intent of a transaction is the hash of an explicit encoding of its fields.
The encoding is a prefix code for everything but the call data, which comes
last, so requests with the same intent agree on every encoded field.
-/

/-- The bytes in front of every intent. -/
def intentTag : Bytes :=
  [97, 120, 101, 45, 100, 101, 112, 108, 111, 121, 45, 105, 110, 116, 101, 110, 116, 45, 118, 50]

/-- A number of eight bytes. -/
def word64 : Codec U64 := Codec.word 8 64 (by decide)

/-- An address of twenty bytes. -/
def word160 : Codec Address := Codec.word 20 160 (by decide)

/-- A word of 32 bytes. -/
def word256 : Codec U256 := Codec.word 32 256 (by decide)

/-- A presence byte and a word that is zero when the value is missing. -/
def flagged : Codec (Option U64) where
  encode value := (if value.isSome then 1 else 0) :: word64.encode (value.getD 0)
  decode
    | [] => none
    | flag :: input =>
      match word64.decode input with
      | none => none
      | some (value, rest) => some (if flag = 0 then none else some value, rest)
  decode_encode := by
    intro value rest
    cases value with
    | none => simp [word64.decode_encode]
    | some value => simp [word64.decode_encode]

/-- What is hashed of a request. -/
abbrev IntentFields := U64 × Address × Option Address × U256 × Option U64 × Option U64

/-- The fields of an intent one after the other. -/
def intentFields : Codec IntentFields :=
  word64.pair
    (word160.pair ((Codec.option word160).pair (word256.pair (flagged.pair flagged))))

/-- The contract that is called, if the request is no creation. -/
def TransactionRequest.callee (request : TransactionRequest) : Option Address :=
  request.destination.bind TxKind.destination

/-- The bytes of the intent of a request. -/
def intentBytes (request : TransactionRequest) : Except String Bytes :=
  if request.accessList.all List.isEmpty ∧ request.authorizationList = none ∧
      request.blobVersionedHashes = none then
    match request.chainId with
    | none => .error "missing chain ID"
    | some chainId =>
      match request.fromAddress with
      | none => .error "missing signer"
      | some sender =>
        .ok
          (intentTag ++ (intentFields.encode (chainId, sender, request.callee, request.value.getD 0,
                  request.nonce, request.gas) ++
              request.input.getD []))
  else
    .error "unsupported deployment transaction extensions"

/-- The hash under which a request is recorded. -/
def intentHash (lib : Platform) (request : TransactionRequest) : Except String Digest :=
  (intentBytes request).map lib.keccak256

variable {request : TransactionRequest}

theorem intentBytes_ok {bytes : Bytes} (encoded : intentBytes request = .ok bytes) :
    ∃ chainId sender, request.chainId = some chainId ∧ request.fromAddress = some sender ∧ bytes =
          intentTag ++ (intentFields.encode (chainId, sender, request.callee, request.value.getD 0,
                  request.nonce, request.gas) ++
              request.input.getD []) := by
  unfold intentBytes at encoded
  split at encoded
  · split at encoded
    · cases encoded
    · rename_i chainId chain
      split at encoded
      · cases encoded
      · rename_i sender origin
        cases encoded
        exact ⟨chainId, sender, chain, origin, rfl⟩
  · cases encoded

/-- Two requests for the same call; their fees may differ. -/
structure SameIntent (first second : TransactionRequest) : Prop where
  chainId : first.chainId = second.chainId
  fromAddress : first.fromAddress = second.fromAddress
  callee : first.callee = second.callee
  value : first.value.getD 0 = second.value.getD 0
  nonce : first.nonce = second.nonce
  gas : first.gas = second.gas
  input : first.input.getD [] = second.input.getD []

variable {first second : TransactionRequest}

theorem intentBytes_inj {bytes : Bytes} (firstBytes : intentBytes first = .ok bytes)
    (secondBytes : intentBytes second = .ok bytes) :
    SameIntent first second := by
  obtain ⟨chain, sender, chainEq, senderEq, firstIs⟩ := intentBytes_ok firstBytes
  obtain ⟨chain', sender', chainEq', senderEq', secondIs⟩ := intentBytes_ok secondBytes
  have sameBytes := List.append_cancel_left (firstIs.symm.trans secondIs)
  obtain ⟨sameFields, sameInput⟩ := intentFields.encode_append_inj sameBytes
  simp only [Prod.mk.injEq] at sameFields
  obtain ⟨sameChain, sameSender, sameCallee, sameValue, sameNonce, sameGas⟩ := sameFields
  refine ⟨?_, ?_, sameCallee, sameValue, sameNonce, sameGas, sameInput⟩
  · rw [chainEq, chainEq', sameChain]
  · rw [senderEq, senderEq', sameSender]

variable {lib : Platform}

theorem intentHash_ok {digest : Digest} (hashed : intentHash lib request = .ok digest) :
    ∃ bytes, intentBytes request = .ok bytes ∧ digest = lib.keccak256 bytes := by
  unfold intentHash at hashed
  cases encoded : intentBytes request with
  | error message =>
    rw [encoded] at hashed
    cases hashed
  | ok bytes =>
    rw [encoded] at hashed
    cases hashed
    exact ⟨bytes, rfl, rfl⟩

theorem intentHash_inj {digest : Digest} (firstHash : intentHash lib first = .ok digest)
    (secondHash : intentHash lib second = .ok digest) :
    SameIntent first second := by
  obtain ⟨firstBytes, firstEncoded, firstDigest⟩ := intentHash_ok firstHash
  obtain ⟨secondBytes, secondEncoded, secondDigest⟩ := intentHash_ok secondHash
  have same := lib.keccak256_injective (firstDigest.symm.trans secondDigest)
  rw [← same] at secondEncoded
  exact intentBytes_inj firstEncoded secondEncoded

end Axe.Hardened

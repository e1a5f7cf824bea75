import Axe.EvmIntent

namespace Axe.Hardened

/-!
# A platform that can be run

The platform of a deployment is a parameter of the development.  The one here
is as simple as its laws allow: hashes are the identity, signatures name their
signer, and the wire formats are prefix codes.  It shows that the laws can be
met together, and runs of the deployment can be computed on it.
-/

namespace Sample

/-- A list of alternatives is written as the place of the chosen one. -/
def txType : Codec TxType :=
  Codec.byte.map
    (fun tag =>
      if tag = 0 then .legacy
      else if tag = 1 then .eip2930
      else if tag = 2 then .eip1559
      else if tag = 3 then .eip4844
      else .eip7702)
    (fun type =>
      match type with
      | .legacy => 0
      | .eip2930 => 1
      | .eip1559 => 2
      | .eip4844 => 3
      | .eip7702 => 4)
    (by intro type; cases type <;> rfl)

def word128 : Codec U128 := Codec.word 16 128 (by decide)

def fees : Codec EnvelopeFees :=
  (word128.pair (Codec.option word128)).map
    (fun pair =>
      match pair.2 with
      | none => .price pair.1
      | some tip => .dynamic pair.1 tip)
    (fun value =>
      match value with
      | .price gasPrice => (gasPrice, none)
      | .dynamic maxFee tip => (maxFee, some tip))
    (by intro value; cases value <;> rfl)

def kind : Codec TxKind :=
  (Codec.option word160).map
    (fun destination =>
      match destination with
      | none => .create
      | some address => .call address)
    TxKind.destination
    (by intro value; cases value <;> rfl)

def accessListItem : Codec AccessListItem :=
  (word160.pair (Codec.list Codec.bytes)).map
    (fun pair => ⟨pair.1, pair.2⟩)
    (fun item => (item.address, item.storageKeys))
    (fun _ => rfl)

/-- The wire format of signed EVM transactions. -/
def envelope : Codec Envelope :=
  (txType.pair ((Codec.option word64).pair (word64.pair (word64.pair (fees.pair
    (kind.pair (word256.pair (Codec.bytes.pair ((Codec.option (Codec.list accessListItem)).pair
        ((Codec.option (Codec.list Codec.bytes)).pair
          ((Codec.option (Codec.list Codec.bytes)).pair Codec.bytes))))))))))).map
    (fun
      | (ty, chainId, nonce, gasLimit, fees, kind, value, input, accessList,
          authorizationList, blobVersionedHashes, signature) =>
        ⟨ty, chainId, nonce, gasLimit, fees, kind, value, input, accessList,
          authorizationList, blobVersionedHashes, signature⟩)
    (fun envelope =>
      (envelope.ty, envelope.chainId, envelope.nonce, envelope.gasLimit,
        envelope.fees, envelope.kind, envelope.value, envelope.input,
        envelope.accessList, envelope.authorizationList,
        envelope.blobVersionedHashes, envelope.signature))
    (fun _ => rfl)

def block : Codec EvmBlock :=
  (Codec.bytes.pair (Codec.list (envelope.pair Codec.bool))).map
    (fun pair => ⟨pair.1, pair.2⟩)
    (fun block => (block.salt, block.transactions))
    (fun _ => rfl)

def coin : Codec Coin :=
  (Codec.text.pair Codec.text).map
    (fun pair => ⟨pair.1, pair.2⟩)
    (fun coin => (coin.denom, coin.amount))
    (fun _ => rfl)

def message : Codec AnyMessage :=
  (Codec.text.pair Codec.bytes).map
    (fun pair => ⟨pair.1, pair.2⟩)
    (fun message => (message.typeUrl, message.value))
    (fun _ => rfl)

def txBody : Codec TxBody :=
  ((Codec.list message).pair (Codec.text.pair Codec.number)).map
    (fun fields => ⟨fields.1, fields.2.1, fields.2.2⟩)
    (fun body => (body.messages, body.memo, body.timeoutHeight))
    (fun _ => rfl)

def signerInfo : Codec SignerInfo :=
  ((Codec.option Codec.bytes).pair ((Codec.option Codec.bytes).pair Codec.number)).map
    (fun fields => ⟨fields.1, fields.2.1, fields.2.2⟩)
    (fun info => (info.publicKey, info.modeInfo, info.sequence))
    (fun _ => rfl)

def fee : Codec Fee :=
  ((Codec.list coin).pair (Codec.number.pair (Codec.text.pair Codec.text))).map
    (fun fields => ⟨fields.1, fields.2.1, fields.2.2.1, fields.2.2.2⟩)
    (fun fee => (fee.amount, fee.gasLimit, fee.payer, fee.granter))
    (fun _ => rfl)

def tip : Codec Tip :=
  ((Codec.list coin).pair Codec.text).map
    (fun pair => ⟨pair.1, pair.2⟩)
    (fun tip => (tip.amount, tip.tipper))
    (fun _ => rfl)

def authInfo : Codec AuthInfo :=
  ((Codec.list signerInfo).pair ((Codec.option fee).pair (Codec.option tip))).map
    (fun fields => ⟨fields.1, fields.2.1, fields.2.2⟩)
    (fun auth => (auth.signerInfos, auth.fee, auth.tip))
    (fun _ => rfl)

def txRaw : Codec TxRaw :=
  (Codec.bytes.pair (Codec.bytes.pair (Codec.list Codec.bytes))).map
    (fun fields => ⟨fields.1, fields.2.1, fields.2.2⟩)
    (fun tx => (tx.bodyBytes, tx.authInfoBytes, tx.signatures))
    (fun _ => rfl)

def signDoc : Codec SignDoc :=
  (Codec.bytes.pair (Codec.bytes.pair (Codec.text.pair Codec.number))).map
    (fun fields => ⟨fields.1, fields.2.1, fields.2.2.1, fields.2.2.2⟩)
    (fun doc => (doc.bodyBytes, doc.authInfoBytes, doc.chainId, doc.accountNumber))
    (fun _ => rfl)

def intent : Codec (String × String × String × List (String × Bytes)) :=
  Codec.text.pair
    (Codec.text.pair (Codec.text.pair (Codec.list (Codec.text.pair Codec.bytes))))

def textBytes (text : String) : Bytes := text.toList.map fun value => UInt8.ofNat value.toNat

/-- A platform whose encodings are plain codecs. -/
def platform : Platform where
  keccak256 := id
  sha256 := id
  blockHash := block.encode
  encodeEnvelope := envelope.encode
  decodeEnvelope := envelope.decodeAll
  recoverAddress := fun envelope => word160.decodeAll envelope.signature
  evmAddress := fun key =>
    if key = "" then none else some (BitVec.ofNat 160 key.length)
  addressText := fun _ => "a"
  abiEncode := fun _ => []
  selector := fun _ => []
  signerAddress := fun key => some (BitVec.ofNat 160 key.length)
  accountPrefix := fun _ => some "axelar"
  encodeTxRaw := txRaw.encode
  decodeTxRaw := txRaw.decodeAll
  encodeAuthInfo := authInfo.encode
  decodeAuthInfo := authInfo.decodeAll
  encodeTxBody := txBody.encode
  decodeTxBody := txBody.decodeAll
  encodeSignDoc := signDoc.encode
  publicKey := SigningKey.secret
  directMode := [1]
  accountId := fun publicKey => String.ofList (publicKey.map fun digit => Char.ofNat digit.toNat)
  sign := fun key _ => 1 :: key.secret
  verify := fun publicKey _ signature => decide (signature = 1 :: publicKey)
  intentJson := fun address chain denom messages => intent.encode (address, chain, denom, messages)
  deriveKey := fun mnemonic => some ⟨textBytes mnemonic⟩
  validDenom := fun _ => true
  validChainId := fun _ => true
  validPrice := fun _ => true
  feeAmount := fun gas _ => gas
  proposalDeposit := fun _ => some []
  executeFunds := fun _ => some []
  proposalId := fun _ => some 1
  keccak256_injective := Function.injective_id
  sha256_injective := Function.injective_id
  blockHash_injective := block.encode_injective
  decodeEnvelope_encode := envelope.decodeAll_encode
  decodeTxRaw_encode := txRaw.decodeAll_encode
  decodeAuthInfo_encode := authInfo.decodeAll_encode
  decodeTxBody_encode := txBody.decodeAll_encode
  intentJson_injective := by
    intro address chain denom messages address' chain' denom' messages' same
    have fields := intent.encode_injective same
    simpa using fields
  verify_sign := by simp
  verify_zero := by
    intro key message signature zero
    refine decide_eq_false fun signed => ?_
    have first : (1 : UInt8) ∈ signature := signed ▸ List.mem_cons_self
    exact absurd (zero 1 first) (by decide)

theorem recoverAddress_eq {included : Envelope} {signer : Address}
    (signed : included.signature = word160.encode signer) :
    platform.recoverAddress included = some signer := by
  have recovered : platform.recoverAddress included = word160.decodeAll included.signature := rfl
  rw [recovered, signed, Codec.decodeAll_encode]

end Sample

end Axe.Hardened

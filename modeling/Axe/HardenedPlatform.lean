import Axe.CreateAddress

namespace Axe.Hardened

/-!
# Libraries the deployment relies on

Hashing, signing and the two wire formats come from third-party libraries.
They are collected in one structure, together with the documented facts that
the development uses: hashes do not collide, a decoder inverts its encoder, and
a signature of zero bytes is not a signature.
-/

inductive TxKind where
  | create
  | call (address : Address)
  deriving DecidableEq

def TxKind.destination : TxKind → Option Address
  | create => none
  | call address => some address

structure AccessListItem where
  address : Address
  storageKeys : List Digest
  deriving DecidableEq

/-- A transaction before it is signed; what is missing is filled in. -/
structure TransactionRequest where
  fromAddress : Option Address := none
  destination : Option TxKind := none
  gasPrice : Option U128 := none
  maxFeePerGas : Option U128 := none
  maxPriorityFeePerGas : Option U128 := none
  gas : Option U64 := none
  value : Option U256 := none
  input : Option Bytes := none
  nonce : Option U64 := none
  chainId : Option U64 := none
  accessList : Option (List AccessListItem) := none
  authorizationList : Option (List Bytes) := none
  blobVersionedHashes : Option (List Digest) := none
  deriving DecidableEq

inductive TxType where
  | legacy
  | eip2930
  | eip1559
  | eip4844
  | eip7702
  deriving DecidableEq

inductive EnvelopeFees where
  | price (gasPrice : U128)
  | dynamic (maxFeePerGas maxPriorityFeePerGas : U128)
  deriving DecidableEq

/-- A signed transaction. -/
structure Envelope where
  ty : TxType
  chainId : Option U64
  nonce : U64
  gasLimit : U64
  fees : EnvelopeFees
  kind : TxKind
  value : U256
  input : Bytes
  accessList : Option (List AccessListItem)
  authorizationList : Option (List Bytes)
  blobVersionedHashes : Option (List Digest)
  signature : Bytes
  deriving DecidableEq

namespace Envelope

/-- The gas price, if the envelope has one. -/
def gasPrice (envelope : Envelope) : Option U128 :=
  match envelope.fees with
  | .price gasPrice => some gasPrice
  | .dynamic _ _ => none

/-- What a unit of gas costs at most. -/
def maxFeePerGas (envelope : Envelope) : U128 :=
  match envelope.fees with
  | .price gasPrice => gasPrice
  | .dynamic maxFeePerGas _ => maxFeePerGas

/-- The tip, if the envelope has one. -/
def maxPriorityFeePerGas (envelope : Envelope) : Option U128 :=
  match envelope.fees with
  | .price _ => none
  | .dynamic _ maxPriorityFeePerGas => some maxPriorityFeePerGas

/-- What the gas costs at most. -/
def gasCost (envelope : Envelope) : Nat := envelope.gasLimit.toNat * envelope.maxFeePerGas.toNat

end Envelope

def TransactionRequest.fromTransactionWithSender (envelope : Envelope)
    (sender : Address) : TransactionRequest where
  fromAddress := some sender
  destination := some envelope.kind
  gasPrice := envelope.gasPrice
  maxFeePerGas :=
    match envelope.fees with
    | .price _ => none
    | .dynamic maxFeePerGas _ => some maxFeePerGas
  maxPriorityFeePerGas := envelope.maxPriorityFeePerGas
  gas := some envelope.gasLimit
  value := some envelope.value
  input := some envelope.input
  nonce := some envelope.nonce
  chainId := envelope.chainId
  accessList := envelope.accessList
  authorizationList := envelope.authorizationList
  blobVersionedHashes := envelope.blobVersionedHashes

structure EvmBlock where
  salt : Bytes
  transactions : List (Envelope × Bool)
  deriving DecidableEq

structure AnyMessage where
  typeUrl : String
  value : Bytes
  deriving DecidableEq

structure TxBody where
  messages : List AnyMessage
  memo : String
  timeoutHeight : Nat
  deriving DecidableEq

structure SignerInfo where
  publicKey : Option Bytes
  modeInfo : Option Bytes
  sequence : Nat
  deriving DecidableEq

structure Coin where
  denom : String
  amount : String
  deriving DecidableEq

structure Fee where
  amount : List Coin
  gasLimit : Nat
  payer : String
  granter : String
  deriving DecidableEq

structure Tip where
  amount : List Coin
  tipper : String
  deriving DecidableEq

structure AuthInfo where
  signerInfos : List SignerInfo
  fee : Option Fee
  tip : Option Tip
  deriving DecidableEq

structure TxRaw where
  bodyBytes : Bytes
  authInfoBytes : Bytes
  signatures : List Bytes
  deriving DecidableEq

structure SignDoc where
  bodyBytes : Bytes
  authInfoBytes : Bytes
  chainId : String
  accountNumber : Nat
  deriving DecidableEq

structure SigningKey where
  secret : Bytes
  deriving DecidableEq

structure GasPrice where
  bits : U64
  deriving DecidableEq

inductive AbiValue where
  | address (value : Address)
  | uint (value : U256)
  | bool (value : Bool)
  | word (value : Digest)
  | bytes (value : Bytes)
  | text (value : String)
  | list (values : List AbiValue)
  | tuple (values : List AbiValue)

/-- Third-party functions, and what their documentation promises. -/
structure Platform where
  keccak256 : Bytes → Digest
  sha256 : Bytes → Digest
  blockHash : EvmBlock → Digest
  encodeEnvelope : Envelope → Bytes
  decodeEnvelope : Bytes → Option Envelope
  recoverAddress : Envelope → Option Address
  evmAddress : String → Option Address
  addressText : Address → String
  abiEncode : List AbiValue → Bytes
  selector : String → Bytes
  signerAddress : String → Option Address
  accountPrefix : String → Option String
  encodeTxRaw : TxRaw → Bytes
  decodeTxRaw : Bytes → Option TxRaw
  encodeAuthInfo : AuthInfo → Bytes
  decodeAuthInfo : Bytes → Option AuthInfo
  encodeTxBody : TxBody → Bytes
  decodeTxBody : Bytes → Option TxBody
  encodeSignDoc : SignDoc → Bytes
  publicKey : SigningKey → Bytes
  directMode : Bytes
  accountId : Bytes → String
  sign : SigningKey → Bytes → Bytes
  verify : Bytes → Bytes → Bytes → Bool
  intentJson : String → String → String → List (String × Bytes) → Bytes
  deriveKey : String → Option SigningKey
  validDenom : String → Bool
  validChainId : String → Bool
  validPrice : GasPrice → Bool
  feeAmount : Nat → GasPrice → Nat
  proposalDeposit : Bytes → Option (List Coin)
  executeFunds : Bytes → Option (List Coin)
  proposalId : TxResponse → Option Nat
  keccak256_injective : Function.Injective keccak256
  sha256_injective : Function.Injective sha256
  blockHash_injective : Function.Injective blockHash
  decodeEnvelope_encode : ∀ envelope, decodeEnvelope (encodeEnvelope envelope) = some envelope
  decodeTxRaw_encode : ∀ raw, decodeTxRaw (encodeTxRaw raw) = some raw
  decodeAuthInfo_encode : ∀ auth, decodeAuthInfo (encodeAuthInfo auth) = some auth
  decodeTxBody_encode : ∀ body, decodeTxBody (encodeTxBody body) = some body
  intentJson_injective : ∀ {address chain denom messages address' chain' denom' messages'},
      intentJson address chain denom messages = intentJson address' chain' denom' messages' →
        address = address' ∧ chain = chain' ∧ denom = denom' ∧ messages = messages'
  verify_sign : ∀ key message, verify (publicKey key) message (sign key message) = true
  verify_zero : ∀ key message signature,
      (∀ byte ∈ signature, byte = 0) → verify key message signature = false

namespace Platform

variable (lib : Platform)

/-- The hash of an envelope. -/
def txHash (envelope : Envelope) : Digest := lib.keccak256 (lib.encodeEnvelope envelope)

theorem txHash_injective : Function.Injective lib.txHash := by
  intro first second same
  have bytes := lib.keccak256_injective same
  have decoded := congrArg lib.decodeEnvelope bytes
  simpa [lib.decodeEnvelope_encode] using decoded

/-- The address of a contract that is created. -/
def createAddress (sender : Address) (nonce : U64) : Address :=
  computeCreateAddress lib.keccak256 sender nonce

/-- The data of a call. -/
def callData (function : String) (arguments : List AbiValue) : Bytes :=
  lib.selector function ++ lib.abiEncode arguments

/-- The account of a key. -/
def keyAccount (key : SigningKey) : String := lib.accountId (lib.publicKey key)

/-- The signer and the sequence number of a signed transaction. -/
def cosmosSlot (raw : Bytes) : Option (String × Nat) :=
  match lib.decodeTxRaw raw with
  | none => none
  | some tx =>
    match lib.decodeAuthInfo tx.authInfoBytes with
    | some ⟨[⟨some publicKey, _, sequence⟩], _, _⟩ => some (lib.accountId publicKey, sequence)
    | _ => none

/--
Cosmos transaction bytes that a node could execute: they carry a signature of
their signer, for some chain and account number.
-/
def ValidlySigned (raw : Bytes) : Prop :=
  ∃ tx auth publicKey modeInfo sequence signature chainId accountNumber,
    lib.decodeTxRaw raw = some tx ∧ lib.decodeAuthInfo tx.authInfoBytes = some auth ∧
      auth.signerInfos = [⟨some publicKey, modeInfo, sequence⟩] ∧
      tx.signatures = [signature] ∧
      lib.verify publicKey
        (lib.encodeSignDoc ⟨tx.bodyBytes, tx.authInfoBytes, chainId, accountNumber⟩)
        signature = true

end Platform

/-- What filling in and signing a request returns: nothing preset changes. -/
def Fills (lib : Platform) (signer : Address) (request : TransactionRequest)
    (envelope : Envelope) : Prop :=
  lib.recoverAddress envelope = some signer ∧ (∀ nonce ∈ request.nonce, envelope.nonce = nonce) ∧
    (∀ gas ∈ request.gas, envelope.gasLimit = gas) ∧
    (∀ chainId ∈ request.chainId, envelope.chainId = some chainId) ∧
    (∀ kind ∈ request.destination, envelope.kind = kind) ∧
    envelope.value = request.value.getD 0 ∧
    envelope.input = request.input.getD [] ∧
    envelope.accessList.getD [] = request.accessList.getD [] ∧
    envelope.authorizationList = request.authorizationList ∧
    envelope.blobVersionedHashes = request.blobVersionedHashes

/-- A Cosmos signing key with the account it derives. -/
structure Wallet (lib : Platform) where
  key : SigningKey
  address : String
  address_eq : address = lib.keyAccount key

end Axe.Hardened

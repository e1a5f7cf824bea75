import Mathlib.Data.List.AList
import Axe.AttemptLedger
import Axe.PrefixCodec

namespace Axe.Hardened

/-!
# The journal of a hardened deployment

A hardened deployment writes every transaction it signs to a journal before it
sends it.  The journal has the current transaction of every action, the earlier
transactions of the action (replaced for a higher fee, or retired after a proven
failure), and the results that were confirmed on chain.

The string keys of the journal's maps are represented by the step and the label
they are built from; `ActionKey.text` is the key as it is written to disk.
-/

abbrev U64 := BitVec 64

abbrev U128 := BitVec 128

abbrev U256 := BitVec 256

abbrev Address := BitVec 160

/-- A hash. -/
abbrev Digest := Bytes

abbrev Map (Key Value : Type) := AList fun _ : Key => Value

/-- The steps of a deployment. -/
inductive StepName where
  | evmCompatibilityCheck
  | constAddressDeployer
  | create3Deployer
  | predictGatewayAddress
  | addCosmWasmConfig
  | instantiateChainContracts
  | waitInstantiateProposal
  | saveDeployedContracts
  | addRewards
  | waitForVerifierSet
  | axelarGateway
  | operators
  | registerOperators
  | axelarGasService
  | transferOperatorsOwnership
  | transferGatewayOwnership
  | transferGasServiceOwnership
  | deployInterchainTokenService
  | registerItsOnHub
  | waitItsHubRegistration
  deriving DecidableEq

/-- The name of a step as it is saved. -/
def StepName.text : StepName → String
  | evmCompatibilityCheck => "EvmCompatibilityCheck"
  | constAddressDeployer => "ConstAddressDeployer"
  | create3Deployer => "Create3Deployer"
  | predictGatewayAddress => "PredictGatewayAddress"
  | addCosmWasmConfig => "AddCosmWasmConfig"
  | instantiateChainContracts => "InstantiateChainContracts"
  | waitInstantiateProposal => "WaitInstantiateProposal"
  | saveDeployedContracts => "SaveDeployedContracts"
  | addRewards => "AddRewards"
  | waitForVerifierSet => "WaitForVerifierSet"
  | axelarGateway => "AxelarGateway"
  | operators => "Operators"
  | registerOperators => "RegisterOperators"
  | axelarGasService => "AxelarGasService"
  | transferOperatorsOwnership => "TransferOperatorsOwnership"
  | transferGatewayOwnership => "TransferGatewayOwnership"
  | transferGasServiceOwnership => "TransferGasServiceOwnership"
  | deployInterchainTokenService => "DeployInterchainTokenService"
  | registerItsOnHub => "RegisterItsOnHub"
  | waitItsHubRegistration => "WaitItsHubRegistration"

/-- The transactions of the steps on the EVM chain. -/
inductive EvmLabel where
  | deployCompatibilityProbe
  | updateCompatibilityProbe
  | contract (step : StepName)
  | gatewayImplementation
  | gatewayProxy
  | registerOperator (operator : String)
  | gasImplementation
  | gasProxy
  | gasProxyInitialization
  | transferOwnership
  | tokenManagerDeployer
  | interchainToken
  | interchainTokenDeployer
  | tokenManager
  | tokenHandler
  | interchainTokenServiceImpl
  | interchainTokenServiceProxy
  | interchainTokenFactoryImpl
  | interchainTokenFactoryProxy
  deriving DecidableEq

/-- The label of a transaction as it is saved. -/
def EvmLabel.text : EvmLabel → String
  | deployCompatibilityProbe => "deploy compatibility probe"
  | updateCompatibilityProbe => "update compatibility probe"
  | contract step => step.text
  | gatewayImplementation => "gateway implementation"
  | gatewayProxy => "gateway proxy"
  | registerOperator operator => "register operator " ++ operator
  | gasImplementation => "gas implementation"
  | gasProxy => "gas proxy"
  | gasProxyInitialization => "gas proxy initialization"
  | transferOwnership => "transfer ownership"
  | tokenManagerDeployer => "TokenManagerDeployer"
  | interchainToken => "InterchainToken"
  | interchainTokenDeployer => "InterchainTokenDeployer"
  | tokenManager => "TokenManager"
  | tokenHandler => "TokenHandler"
  | interchainTokenServiceImpl => "InterchainTokenServiceImpl"
  | interchainTokenServiceProxy => "InterchainTokenServiceProxy"
  | interchainTokenFactoryImpl => "InterchainTokenFactoryImpl"
  | interchainTokenFactoryProxy => "InterchainTokenFactoryProxy"

/-- The transactions of a step. -/
inductive Label where
  | cosmos
  | evm (label : EvmLabel)
  deriving DecidableEq

/-- The second part of a key. -/
def Label.text : Label → String
  | cosmos => "cosmos"
  | evm label => label.text

/-- What a transaction is for. -/
structure ActionKey where
  step : StepName
  label : Label
  deriving DecidableEq

/-- The key as it is saved. -/
def ActionKey.text (key : ActionKey) : String := key.step.text ++ "/" ++ key.label.text

def ActionKey.cosmos (step : StepName) : ActionKey := ⟨step, .cosmos⟩

def ActionKey.evm (step : StepName) (label : EvmLabel) : ActionKey := ⟨step, .evm label⟩

/-- A signed transaction as it is recorded. -/
structure EvmTransaction where
  intent : Digest
  raw : Bytes
  hash : Digest
  sender : Address
  nonce : U64
  gasCost : Nat
  deriving DecidableEq

/-- A signed transaction as it is recorded, with its fee. -/
structure CosmosTransaction where
  intent : Digest
  raw : Bytes
  hash : Digest
  sender : String
  fee : String
  sequence : Nat
  deriving DecidableEq

/-- A recorded transaction of either chain. -/
inductive Transaction where
  | evm (transaction : EvmTransaction)
  | cosmos (transaction : CosmosTransaction)
  deriving DecidableEq

/-- What an EVM node says about an included transaction. -/
structure Receipt where
  transactionHash : Digest
  blockNumber : Option Nat
  blockHash : Option Digest
  status : Bool
  contractAddress : Option Address
  deriving DecidableEq

/-- What a Cosmos node says about an included transaction. -/
structure TxResponse where
  txhash : Option Digest
  height : Option Nat
  code : Option Nat
  rawLog : String
  deriving DecidableEq

/-- The recorded result of a transaction. -/
inductive Confirmation where
  | evm (receipt : Receipt)
  | cosmos (height code : Nat) (response : TxResponse)
  deriving DecidableEq

/--
The key of a confirmation: the hash as text.  EVM hashes are written with a
leading 0x and Cosmos hashes without one, so the two kinds never coincide.
-/
inductive HashText where
  | evm (hash : Digest)
  | cosmos (hash : Digest)
  deriving DecidableEq

/-- How deep an inclusion must be before it counts. -/
inductive EvmConfirmationPolicy where
  | confirmations (count : Nat)
  | finalized
  deriving DecidableEq

structure ContractEvidence where
  address : Address
  codeHash : Digest
  owner : Option Address
  implementation : Option Address
  operator : Option Address
  signerHash : Option Digest
  deriving DecidableEq

structure ProtocolIdentity where
  address : String
  codeId : String
  checksum : String
  creator : String
  admin : String
  deriving DecidableEq

/-- The verifier set that the gateway is created with. -/
structure InitialSigners where
  identities : List String
  signers : List (Address × U128)
  threshold : U128
  nonce : Digest
  setId : String
  hash : Digest
  deriving DecidableEq

structure CosmosDeployment where
  deploymentName : String
  coordinator : String
  salt : String
  codeIds : Nat × Nat × Nat
  gateway : String
  verifier : String
  prover : String
  deriving DecidableEq

/-- All that a deployment must not forget. -/
structure Journal where
  version : Nat
  fingerprint : Digest
  cosmosDeployment : Option CosmosDeployment
  inputsHash : Option Digest
  evmConfirmations : EvmConfirmationPolicy
  actions : Map ActionKey Transaction
  evidence : Map String ContractEvidence
  confirmations : Map HashText Confirmation
  attempts : Map ActionKey (List Transaction)
  retryGasLimits : Map ActionKey U64
  protocols : Map String ProtocolIdentity
  protocolHistory : List (Map String ProtocolIdentity)
  initialSigners : Option InitialSigners
  rotations : Map U64 Digest

namespace Journal

/-- A journal without records. -/
def empty (fingerprint : Digest) : Journal where
  version := 2
  fingerprint := fingerprint
  cosmosDeployment := none
  inputsHash := none
  evmConfirmations := .confirmations 1
  actions := ∅
  evidence := ∅
  confirmations := ∅
  attempts := ∅
  retryGasLimits := ∅
  protocols := ∅
  protocolHistory := []
  initialSigners := none
  rotations := ∅

/-- The current transaction of an action. -/
def get (journal : Journal) (key : ActionKey) : Option Transaction := journal.actions.lookup key

/-- What was recorded of the result of a transaction. -/
def confirmation (journal : Journal) (hash : HashText) : Option Confirmation :=
  journal.confirmations.lookup hash

/-- The transactions of an action that were given up. -/
def past (journal : Journal) (key : ActionKey) : List Transaction :=
  (journal.attempts.lookup key).getD []

/-- The attempts of one action. -/
def ledger (journal : Journal) (key : ActionKey) : Ledger Transaction :=
  ⟨journal.past key, journal.get key⟩

/-- All attempts of an action, the current one last. -/
def history (journal : Journal) (key : ActionKey) : List Transaction := (journal.ledger key).history

/-- All transactions of the journal. -/
def recorded (journal : Journal) : List Transaction :=
  journal.actions.entries.map Sigma.snd ++ (journal.attempts.entries.map Sigma.snd).flatten

/-- Record the transaction of an action. -/
def record (journal : Journal) (key : ActionKey) (transaction : Transaction) : Journal :=
  { journal with actions := journal.actions.insert key transaction }

/-- Record the result of a transaction. -/
def confirm (journal : Journal) (hash : HashText) (result : Confirmation) : Journal :=
  { journal with confirmations := journal.confirmations.insert hash result }

/-- Move a transaction to the end of the earlier ones of its action. -/
def pushAttempt (journal : Journal) (key : ActionKey) (previous : Transaction) : Journal :=
  { journal with
    attempts := journal.attempts.insert key (journal.past key ++ [previous]) }

/-- Record a transaction in the place of another one, which is kept. -/
def replace (journal : Journal) (key : ActionKey) (previous replacement : Transaction) : Journal :=
  (journal.record key replacement).pushAttempt key previous

/-- Take the current transaction out, and set the gas limit of the next one. -/
def retire (journal : Journal) (key : ActionKey) (previous : Transaction)
    (gasLimit : Option U64) : Journal :=
  let moved := { journal with actions := journal.actions.erase key }.pushAttempt key previous
  match gasLimit with
  | none => moved
  | some limit => { moved with retryGasLimits := moved.retryGasLimits.insert key limit }

/-- The journal without its confirmations. -/
def core (journal : Journal) : Journal := { journal with confirmations := ∅ }

section Lookup

variable (journal : Journal) (key other : ActionKey)

@[simp] theorem get_empty (fingerprint : Digest) : (empty fingerprint).get key = none := by
  simp [get, empty]

@[simp] theorem past_empty (fingerprint : Digest) : (empty fingerprint).past key = [] := by
  simp [past, empty]

@[simp] theorem get_record_self (transaction : Transaction) :
    (journal.record key transaction).get key = some transaction := by
  simp [get, record]

@[simp] theorem past_record (transaction : Transaction) :
    (journal.record key transaction).past other = journal.past other :=
  rfl

theorem get_record_ne (transaction : Transaction) (different : other ≠ key) :
    (journal.record key transaction).get other = journal.get other := by
  simp [get, record, AList.lookup_insert_ne different]

@[simp] theorem get_pushAttempt (previous : Transaction) :
    (journal.pushAttempt key previous).get other = journal.get other :=
  rfl

@[simp] theorem past_pushAttempt_self (previous : Transaction) :
    (journal.pushAttempt key previous).past key = journal.past key ++ [previous] := by
  simp [past, pushAttempt]

theorem past_pushAttempt_ne (previous : Transaction) (different : other ≠ key) :
    (journal.pushAttempt key previous).past other = journal.past other := by
  simp [past, pushAttempt, AList.lookup_insert_ne different]

@[simp] theorem get_replace_self (previous replacement : Transaction) :
    (journal.replace key previous replacement).get key = some replacement := by
  simp [replace]

@[simp] theorem past_replace_self (previous replacement : Transaction) :
    (journal.replace key previous replacement).past key = journal.past key ++ [previous] := by
  simp [replace]

@[simp] theorem get_confirm (hash : HashText) (result : Confirmation) :
    (journal.confirm hash result).get key = journal.get key :=
  rfl

@[simp] theorem past_confirm (hash : HashText) (result : Confirmation) :
    (journal.confirm hash result).past key = journal.past key :=
  rfl

@[simp] theorem confirmation_confirm_self (hash : HashText) (result : Confirmation) :
    (journal.confirm hash result).confirmation hash = some result := by
  simp [confirmation, confirm]

theorem confirmation_confirm_ne {hash otherHash : HashText} (result : Confirmation)
    (different : otherHash ≠ hash) :
    (journal.confirm hash result).confirmation otherHash = journal.confirmation otherHash := by
  simp [confirmation, confirm, AList.lookup_insert_ne different]

@[simp] theorem get_retire_self (previous : Transaction) (gasLimit : Option U64) :
    (journal.retire key previous gasLimit).get key = none := by
  cases gasLimit <;> simp [get, retire, pushAttempt]

theorem get_retire_ne (previous : Transaction) (gasLimit : Option U64) (different : other ≠ key) :
    (journal.retire key previous gasLimit).get other = journal.get other := by
  cases gasLimit <;>
    simp [get, retire, pushAttempt, AList.lookup_erase_ne different]

@[simp] theorem past_retire_self (previous : Transaction) (gasLimit : Option U64) :
    (journal.retire key previous gasLimit).past key = journal.past key ++ [previous] := by
  cases gasLimit <;> simp [past, retire, pushAttempt]

theorem past_retire_ne (previous : Transaction) (gasLimit : Option U64) (different : other ≠ key) :
    (journal.retire key previous gasLimit).past other = journal.past other := by
  cases gasLimit <;>
    simp [past, retire, pushAttempt, AList.lookup_insert_ne different]

@[simp] theorem get_core : journal.core.get key = journal.get key := rfl

@[simp] theorem past_core : journal.core.past key = journal.past key := rfl

end Lookup

end Journal

end Axe.Hardened

import Axe.HardenedRecovery
import Axe.HardenedVerifiers

namespace Axe.Hardened

/-!
# What one call of the deployment can do

This module says once what a call can do to the journal, to the files and to
the nodes, with everything that was checked before it.  The contracts of the
programs establish it, and every property of whole runs is derived from it.

The relations are parametric in a policy, which says which records and which
changes of the state a particular driver makes, and in whether the nodes are
honest.
-/

/-- The record is that of the signed envelope. -/
structure EvmMade (lib : Platform) (tx : EvmTransaction) (envelope : Envelope) : Prop where
  raw : tx.raw = lib.encodeEnvelope envelope
  hash : tx.hash = lib.txHash envelope
  sender : lib.recoverAddress envelope = some tx.sender
  nonce : envelope.nonce = tx.nonce
  cost : tx.gasCost = envelope.gasCost

def cosmosBody (lib : Platform) (raw : Bytes) : Option Bytes :=
  (lib.decodeTxRaw raw).map TxRaw.bodyBytes

/-- The record is that of the signed transaction. -/
structure CosmosMade (lib : Platform) (tx : CosmosTransaction) : Prop where
  hash : tx.hash = lib.sha256 tx.raw
  slot : lib.cosmosSlot tx.raw = some (tx.sender, tx.sequence)
  content : ∃ chainId denom messages,
      tx.intent = cosmosIntent lib tx.sender chainId denom messages ∧
        cosmosBody lib tx.raw = some (lib.encodeTxBody ⟨messages, "", 0⟩)

structure RecordsEvm (lib : Platform) (plan : Plan) (journal : Journal) (key : ActionKey)
    (tx : EvmTransaction) : Prop where
  label : key.label ≠ .cosmos
  fresh : journal.get key = none
  made : ∃ envelope, EvmMade lib tx envelope ∧ envelope.chainId = some plan.evmChainId ∧
      validateRetry lib journal key envelope = .ok ()
  budget : checkBudget plan journal tx.sender tx.gasCost none = .ok ()

structure RecordsCosmos (lib : Platform) (plan : Plan) (journal : Journal) (key : ActionKey)
    (tx : CosmosTransaction) : Prop where
  label : key.label = .cosmos
  fresh : journal.get key = none
  made : CosmosMade lib tx
  retry : validateCosmosRetry journal key tx.intent tx.sequence = .ok ()
  fee : ∃ amount, tx.fee = decimalText amount ∧
      checkFeeBudget plan journal tx.sender tx.sequence amount = .ok ()

structure ReplacesEvm (lib : Platform) (plan : Plan) (journal : Journal) (key : ActionKey)
    (old tx : EvmTransaction) : Prop where
  current : journal.get key = some (.evm old)
  made : ∃ oldEnvelope envelope, lib.decodeEnvelope old.raw = some oldEnvelope ∧
        lib.recoverAddress oldEnvelope = some old.sender ∧
        oldEnvelope.nonce = old.nonce ∧
        EvmMade lib tx envelope ∧
        validateReplacement lib oldEnvelope envelope = .ok ()
  intent : tx.intent = old.intent
  sender : tx.sender = old.sender
  nonce : tx.nonce = old.nonce
  budget : checkBudget plan journal old.sender tx.gasCost (some key) = .ok ()

structure ReplacesCosmos (lib : Platform) (plan : Plan) (journal : Journal) (key : ActionKey)
    (old tx : CosmosTransaction) : Prop where
  current : journal.get key = some (.cosmos old)
  hash : tx.hash = lib.sha256 tx.raw
  slot : lib.cosmosSlot tx.raw = some (tx.sender, tx.sequence)
  body : cosmosBody lib tx.raw = cosmosBody lib old.raw
  intent : tx.intent = old.intent
  sender : tx.sender = old.sender
  sequence : tx.sequence = old.sequence
  fee : ∃ amount : U128, tx.fee = decimalText amount.toNat ∧ old.feePaid < amount.toNat ∧
      checkFeeBudget plan journal old.sender old.sequence amount.toNat = .ok ()

def SomeFailed (journal : Journal) (key : ActionKey) (old : CosmosTransaction) : Prop :=
  ∃ tx height code response, .cosmos tx ∈ journal.history key ∧
      tx.sender = old.sender ∧ tx.sequence = old.sequence ∧
      journal.confirmation (.cosmos tx.hash) = some (.cosmos height code response) ∧
      0 < height ∧ code ≠ 0

def ReceiptSound (lib : Platform) (receipt : Receipt) : Prop :=
  ∃ block envelope, receipt.blockHash = some (lib.blockHash block) ∧
      (envelope, receipt.status) ∈ block.transactions ∧
      lib.txHash envelope = receipt.transactionHash

/-- The journals agree in what they record of transactions. -/
structure SameRecords (journal other : Journal) : Prop where
  version : other.version = journal.version
  fingerprint : other.fingerprint = journal.fingerprint
  actions : other.actions = journal.actions
  attempts : other.attempts = journal.attempts
  confirmations : other.confirmations = journal.confirmations
  retryGasLimits : other.retryGasLimits = journal.retryGasLimits
  initialSigners : other.initialSigners = journal.initialSigners

/-- How a journal can change. -/
inductive JournalMove (lib : Platform) (honest : Prop) (plan : Plan) (world : Chains lib)
    (records : ActionKey → Transaction → Prop) (journal : Journal) : Journal → Prop where
  | confirmEvm
      (receipt : Receipt)
      (sound : honest → ReceiptSound lib receipt) :
      JournalMove lib honest plan world records journal
        (journal.confirm (.evm receipt.transactionHash) (.evm receipt))
  | confirmCosmos
      (hash : Digest)
      (height code : Nat)
      (response : TxResponse)
      (sound : honest → world.cosmos.Results hash code) :
      JournalMove lib honest plan world records journal
        (journal.confirm (.cosmos hash) (.cosmos height code response))
  | recordEvm
      (key : ActionKey)
      (tx : EvmTransaction)
      (checked : RecordsEvm lib plan journal key tx)
      (permitted : records key (.evm tx)) :
      JournalMove lib honest plan world records journal
        (journal.record key (.evm tx))
  | recordCosmos
      (key : ActionKey)
      (tx : CosmosTransaction)
      (checked : RecordsCosmos lib plan journal key tx)
      (permitted : records key (.cosmos tx)) :
      JournalMove lib honest plan world records journal
        (journal.record key (.cosmos tx))
  | replaceEvm
      (key : ActionKey)
      (old tx : EvmTransaction)
      (checked : ReplacesEvm lib plan journal key old tx) :
      JournalMove lib honest plan world records journal
        (journal.replace key (.evm old) (.evm tx))
  | replaceCosmos
      (key : ActionKey)
      (old tx : CosmosTransaction)
      (checked : ReplacesCosmos lib plan journal key old tx) :
      JournalMove lib honest plan world records journal
        (journal.replace key (.cosmos old) (.cosmos tx))
  | retireEvm
      (key : ActionKey)
      (old : EvmTransaction)
      (gasLimit : Option U64)
      (current : journal.get key = some (.evm old))
      (unpinned : key.step ≠ .axelarGateway)
      (failed : honest → world.evm.FailedFinally old.sender old.nonce) :
      JournalMove lib honest plan world records journal
        (journal.retire key (.evm old) gasLimit)
  | retireCosmos
      (key : ActionKey)
      (old : CosmosTransaction)
      (gasLimit : Option U64)
      (current : journal.get key = some (.cosmos old))
      (unpinned : key.step ≠ .axelarGateway)
      (failed : SomeFailed journal key old) :
      JournalMove lib honest plan world records journal
        (journal.retire key (.cosmos old) gasLimit)
  | approve
      (initial : InitialSigners)
      (absent : journal.get gatewayProxyKey = none) :
      JournalMove lib honest plan world records journal
        { journal with initialSigners := some initial }
  | other
      (later : Journal)
      (same : SameRecords journal later) :
      JournalMove lib honest plan world records journal later

/-- The journal file has what the journal in memory has, results apart. -/
def Station.Synced (here : Station) : Prop := here.disk.map Journal.core = some here.memory.core

/-- What a driver of the deployment records, and how it changes the state. -/
structure Policy where
  records : Station → ActionKey → Transaction → Prop
  updates : Station → State → Prop
  saves : Station → Prop

/-- What a program may change between two calls. -/
inductive Transition (lib : Platform) (honest : Prop) (plan : Plan) (policy : Policy) :
    Promise Station (Chains lib) where
  | stutter
      {here : Station}
      {world : Chains lib} :
      Transition lib honest plan policy here world here world
  | update
      {here : Station}
      {world : Chains lib}
      (state : State)
      (permitted : policy.updates here state) :
      Transition lib honest plan policy
        here world { here with context := state } world
  | save
      {here : Station}
      {world : Chains lib}
      (outcome : WriteOutcome)
      (permitted : policy.saves here) :
      Transition lib honest plan policy
        here world (here.stateWritten outcome) world
  | load
      {here : Station}
      {world : Chains lib}
      (journal : Journal)
      (outcome : WriteOutcome)
      (closed : here.memory = Journal.empty [])
      (opened : here.disk = some journal ∨
          here.disk = none ∧ ∃ fingerprint, journal = Journal.empty fingerprint) :
      Transition lib honest plan policy
        here world (here.written journal outcome) world
  | commit
      {here : Station}
      {world : Chains lib}
      (journal : Journal)
      (outcome : WriteOutcome)
      (synced : here.Synced)
      (move : JournalMove lib honest plan world (policy.records here) here.memory journal) :
      Transition lib honest plan policy
        here world (here.written journal outcome) world
  | handEvm
      {here : Station}
      {world : Chains lib}
      (key : ActionKey)
      (tx : EvmTransaction)
      (synced : here.Synced)
      (recorded : .evm tx ∈ here.memory.history key)
      (hash : tx.hash = lib.keccak256 tx.raw) :
      Transition lib honest plan policy here world here
        { world with handed := world.handed ++ [.evm tx.raw] }
  | handCosmos
      {here : Station}
      {world : Chains lib}
      (key : ActionKey)
      (tx : CosmosTransaction)
      (synced : here.Synced)
      (recorded : .cosmos tx ∈ here.memory.history key)
      (hash : tx.hash = lib.sha256 tx.raw) :
      Transition lib honest plan policy here world here
        { world with handed := world.handed ++ [.cosmos tx.raw] }
  | simulate
      {here : Station}
      {world : Chains lib}
      (raw : Bytes)
      (unsigned : ¬ lib.ValidlySigned raw) :
      Transition lib honest plan policy here world here
        { world with handed := world.handed ++ [.cosmos raw] }

end Axe.Hardened

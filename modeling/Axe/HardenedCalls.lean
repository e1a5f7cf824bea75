import Axe.CrashService
import Axe.HardenedChains
import Axe.HardenedQuestions

namespace Axe.Hardened

/-!
# The deployment process and its surroundings

The process owns the journal in memory and the two files it writes: the journal
file and the state file.  Everything else it does is a call to a node, to the
operator or to the clock.

A file is written to a temporary name, synced, renamed and the directory is
synced; the write can therefore fail before the file changed or after it.  In
both cases the journal in memory has the change already.
-/

/-- Why a run ends before its time. -/
inductive Stop where
  | paused (message : String)
  | failed (message : String)
  deriving DecidableEq

/-- How a write of a file ended. -/
inductive WriteOutcome where
  | ok
  | failedBefore
  | failedAfter
  deriving DecidableEq

/-- The write replaced the file. -/
def WriteOutcome.reached : WriteOutcome → Bool
  | failedBefore => false
  | _ => true

/-- The block that a question is about. -/
inductive BlockTag where
  | latest
  | finalized
  | number (number : Nat)
  deriving DecidableEq

structure BlockHeader where
  number : Nat
  hash : Digest
  deriving DecidableEq

/-- What a deployment does and asks. -/
inductive Call where
  | readJournal
  | currentJournal
  | hold (journal : Journal)
  | commit (journal : Journal)
  | currentState
  | setState (state : State)
  | saveState
  | readSavedState
  | confirm (prompt : String)
  | patience
  | waitInclusion (key : ActionKey)
  | sleep
  | evmChainId
  | transactionCount (address : Address)
  | simulateCall (request : TransactionRequest)
  | fillAndSign (signer : Address) (request : TransactionRequest)
  | transactionReceipt (hash : Digest)
  | blockByNumber (tag : BlockTag)
  | transactionByHash (hash : Digest)
  | sendRawTransaction (raw : Bytes)
  | evmGasPrice
  | evmBalance (address : Address)
  | queryAccount (lcd address : String)
  | simulateTx (lcd : String) (raw : Bytes)
  | lookup (lcd : String) (hash : Digest)
  | nodeInfo (lcd : String)
  | broadcastTx (lcd : String) (raw : Bytes)
  | cosmosFunds (lcd address denom : String) (required : Nat)
  | review (what : String)
  | environment
  | inquire (question : Question)

/-- What is answered to each call. -/
def Call.Reply : Call → Type
  | readJournal => Option (Option Journal)
  | currentJournal => Journal
  | hold _ => Unit
  | commit _ => WriteOutcome
  | currentState => State
  | setState _ => Unit
  | saveState => WriteOutcome
  | readSavedState => Option (Option State)
  | confirm _ => Bool
  | patience => Nat
  | waitInclusion _ => Unit
  | sleep => Unit
  | evmChainId => Option U64
  | transactionCount _ => Option U64
  | simulateCall _ => Option Unit
  | fillAndSign _ _ => Option Envelope
  | transactionReceipt _ => Option (Option Receipt)
  | blockByNumber _ => Option (Option BlockHeader)
  | transactionByHash _ => Option Bool
  | sendRawTransaction _ => Option Digest
  | evmGasPrice => Option U128
  | evmBalance _ => Option Nat
  | queryAccount _ _ => Option (Nat × Nat)
  | simulateTx _ _ => Option Nat
  | lookup _ _ => Option (Option TxResponse)
  | nodeInfo _ => Option (Option String)
  | broadcastTx _ _ => Bool
  | cosmosFunds _ _ _ _ => Option Unit
  | review _ => Option Unit
  | environment => String → Option String
  | inquire question => Option question.Answer

/-- The calls of a deployment. -/
def deployInterface : Interface where
  Call := Call
  Reply := Call.Reply

/-- A program of the deployment, which can stop. -/
abbrev Deploy (Value : Type) := Program deployInterface Stop Value

/-- One call of the deployment. -/
abbrev ask (op : Call) : Deploy op.Reply := @Program.perform deployInterface Stop op

/-- Make a call, and stop if its reply is missing. -/
abbrev need {Value : Type} (op : Call) (unpack : op.Reply → Option Value)
    (error : Stop) : Deploy Value :=
  @Program.require deployInterface Stop Value op unpack error

structure Launched where
  options : Options
  saved : Option State

/-- What the process owns: its memory, its two files and its launches so far. -/
structure Station where
  memory : Journal
  disk : Option Journal
  context : State
  saved : Option State
  launches : List Launched

namespace Station

/-- The station after a write of the journal. -/
def written (here : Station) (journal : Journal) (outcome : WriteOutcome) : Station :=
  { here with
    memory := journal
    disk := if outcome.reached then some journal else here.disk }

/-- The station after a write of the state. -/
def stateWritten (here : Station) (outcome : WriteOutcome) : Station :=
  { here with
    saved := if outcome.reached then some here.context.stripped else here.saved }

end Station

/-- The receipt is that of an included transaction. -/
def ReceiptTrue {lib : Platform} (chain : EvmChain lib) (receipt : Receipt) : Prop :=
  ∃ number block envelope, receipt.blockNumber = some number ∧ chain.blocks[number]? = some block ∧
      receipt.blockHash = some (lib.blockHash block) ∧
      (envelope, receipt.status) ∈ block.transactions ∧
      lib.txHash envelope = receipt.transactionHash

/-- The header is that of a block as the tag asks for it. -/
def HeaderTrue {lib : Platform} (chain : EvmChain lib) (header : BlockHeader) : BlockTag → Prop
  | .latest => header.number < chain.blocks.length
  | .finalized => header.number < chain.finalized
  | .number number =>
    ∃ block, chain.blocks[number]? = some block ∧ header = ⟨number, lib.blockHash block⟩

/-- The response is the result of a transaction. -/
def ResponseTrue {lib : Platform} (chain : CosmosChain lib) (response : TxResponse) : Prop :=
  ∀ hash code height, response.txhash = some hash → response.code = some code →
      response.height = some height → 0 < height → chain.Results hash code

/--
The replies that a call can get.  What a node says about the chains is true
only if the nodes are honest; that it can fail to answer is always possible.
-/
def answers (lib : Platform) (honest : Prop) (here : Station) (world : Chains lib) :
    (op : Call) → op.Reply → Prop
  | .readJournal, reply => reply = none ∨ reply = some here.disk
  | .currentJournal, reply => reply = here.memory
  | .currentState, reply => reply = here.context
  | .readSavedState, reply => reply = none ∨ reply = some here.saved
  | .fillAndSign signer request, reply =>
    ∀ envelope, reply = some envelope → Fills lib signer request envelope
  | .transactionReceipt _, reply =>
    honest → ∀ receipt, reply = some (some receipt) → ReceiptTrue world.evm receipt
  | .blockByNumber tag, reply =>
    honest → ∀ header, reply = some (some header) → HeaderTrue world.evm header tag
  | .queryAccount _ address, reply =>
    honest → ∀ number sequence, reply = some (number, sequence) →
      sequence = nextSequence world.cosmos.sequences address
  | .lookup _ _, reply =>
    honest → ∀ response, reply = some (some response) → ResponseTrue world.cosmos response
  | _, _ => True

/-- What a call does to the process and to what nodes have been handed. -/
def reacts (lib : Platform) : (op : Call) → op.Reply → Station → Chains lib → Station × Chains lib
  | .hold journal, _, here, world => ({ here with memory := journal }, world)
  | .commit journal, outcome, here, world => (here.written journal outcome, world)
  | .setState state, _, here, world => ({ here with context := state }, world)
  | .saveState, outcome, here, world => (here.stateWritten outcome, world)
  | .sendRawTransaction raw, _, here, world =>
    (here, { world with handed := world.handed ++ [.evm raw] })
  | .simulateTx _ raw, _, here, world =>
    (here, { world with handed := world.handed ++ [.cosmos raw] })
  | .broadcastTx _ raw, _, here, world =>
    (here, { world with handed := world.handed ++ [.cosmos raw] })
  | _, _, here, world => (here, world)

/-- The deployment, its files and the two chains. -/
def deployMachine (lib : Platform) (honest : Prop) :
    Machine deployInterface Station (Chains lib) where
  allowed := answers lib honest
  react := reacts lib
  evolve := Chains.Evolve

end Axe.Hardened

import Axe.HardenedInvariants
import Axe.SamplePlatform
import Axe.ServiceReplay

namespace Axe.Hardened

/-!
# A node that tells the truth

Runs of the deployment are replayed against nodes that answer at once and from
the chains as they are, and an operator who agrees to everything.  Answers
about the chains are allowed because they are true.  A script that can be carried
out is a run from the initial configuration, so what a computation finds at its
end holds at the end of a run.
-/

namespace Sample

/-- How calls are answered while a script is replayed. -/
inductive Manner where
  | prompt
  | writing (outcome : WriteOutcome)
  deriving DecidableEq

def locate (chain : EvmChain platform)
    (hash : Digest) : Option (Nat × EvmBlock × Envelope × Bool) :=
  chain.blocks.zipIdx.findSome? fun entry =>
    (entry.1.transactions.find? fun included =>
      platform.txHash included.1 = hash).map
        fun included => (entry.2, entry.1, included.1, included.2)

def receiptOf (chain : EvmChain platform) (hash : Digest) : Option Receipt :=
  (locate chain hash).map fun
    | (number, block, included, status) =>
      { transactionHash := hash
        blockNumber := some number
        blockHash := some (platform.blockHash block)
        status := status
        contractAddress :=
          match included.kind, platform.recoverAddress included with
          | .create, some sender => some (platform.createAddress sender included.nonce)
          | _, _ => none }

def headerAt (chain : EvmChain platform) (number : Nat) : Option BlockHeader :=
  chain.blocks[number]?.map fun block => ⟨number, platform.blockHash block⟩

def headerOf (chain : EvmChain platform) : BlockTag → Option BlockHeader
  | .latest => headerAt chain (chain.blocks.length - 1)
  | .finalized => if chain.finalized = 0 then none else headerAt chain (chain.finalized - 1)
  | .number number => headerAt chain number

def transactionCountOf (chain : EvmChain platform) (address : Address) : U64 :=
  BitVec.ofNat 64
    ((blockEntries chain.blocks).countP fun entry =>
      platform.recoverAddress entry.1 = some address)

def filled (chain : EvmChain platform) (signer : Address)
    (request : TransactionRequest) : Envelope where
  ty := .eip1559
  chainId := request.chainId
  nonce := request.nonce.getD (transactionCountOf chain signer)
  gasLimit := request.gas.getD 21000
  fees := .dynamic (request.maxFeePerGas.getD 2) (request.maxPriorityFeePerGas.getD 1)
  kind := request.destination.getD .create
  value := request.value.getD 0
  input := request.input.getD []
  accessList := request.accessList
  authorizationList := request.authorizationList
  blobVersionedHashes := request.blobVersionedHashes
  signature := word160.encode signer

def responseOf (chain : CosmosChain platform) (hash : Digest) : Option TxResponse :=
  (chain.results.find? fun result => result.hash = hash).map fun result =>
    ⟨some hash, some result.height, some result.code, ""⟩

/-- What an honest node answers. -/
def answerTo (world : Chains platform) : (question : Question) → question.Answer
  | .axelarConfig => ⟨"lcd", "axelar", "uaxl", ⟨1⟩⟩
  | .chainAxelarId => "sample"
  | .axelarField _ => "field"
  | .contractAddress _ => (1005 : Address)
  | .configuredContracts => []
  | .domainSeparator => []
  | .artifact _ => [1]
  | .codeAt _ => [1]
  | .constructorCode _ _ => [1]
  | .implementationSlot _ => (0 : U256)
  | .addressView _ => (7 : Address)
  | .wordView _ => (0 : U256)
  | .hashView _ => []
  | .flagView _ => true
  | .pendingCount address => transactionCountOf world.evm address
  | .failedChecks _ => (0 : Nat)
  | .proverSet => some ⟨"s", [⟨"v", "v", "e", .number 3⟩], .text "2", 1⟩
  | .verifierService => ⟨1, none⟩
  | .activeVerifiers => none
  | .proverAdmin => "k"
  | .preflight => ⟨[], [], ∅⟩
  | .inputSnapshot _ => []
  | .proposal _ => .passed
  | .predictedDeployment => ⟨"d", "c", "s", (1, 2, 3), "g", "v", "p"⟩
  | .stepMessages _ _ => [⟨"/cosmwasm.wasm.v1.MsgExecuteContract", [7]⟩]

/-- The reply to each call, in some manner. -/
def replyTo (manner : Manner) (here : Station) (world : Chains platform) : (op : Call) → op.Reply
  | .readJournal => some here.disk
  | .currentJournal => here.memory
  | .hold _ => ()
  | .commit _ =>
    match manner with
    | .prompt => .ok
    | .writing outcome => outcome
  | .currentState => here.context
  | .setState _ => ()
  | .saveState =>
    match manner with
    | .prompt => .ok
    | .writing outcome => outcome
  | .readSavedState => some here.saved
  | .confirm _ => true
  | .patience => (1 : Nat)
  | .waitInclusion _ => ()
  | .sleep => ()
  | .evmChainId => some (1 : U64)
  | .transactionCount address => some (transactionCountOf world.evm address)
  | .simulateCall _ => some ()
  | .fillAndSign signer request => some (filled world.evm signer request)
  | .transactionReceipt hash => some (receiptOf world.evm hash)
  | .blockByNumber tag => some (headerOf world.evm tag)
  | .transactionByHash hash => some (locate world.evm hash).isSome
  | .sendRawTransaction raw => some (platform.keccak256 raw)
  | .evmGasPrice => some (1 : U128)
  | .evmBalance _ => some (2 ^ 100 : Nat)
  | .queryAccount _ address => some ((0 : Nat), nextSequence world.cosmos.sequences address)
  | .simulateTx _ _ => some (1000 : Nat)
  | .lookup _ hash => some (responseOf world.cosmos hash)
  | .nodeInfo _ => some none
  | .broadcastTx _ _ => true
  | .cosmosFunds _ _ _ _ => some ()
  | .review _ => some ()
  | .environment => fun _ => some "k"
  | .inquire question => some (answerTo world question)

variable {chain : EvmChain platform}

theorem receiptOf_true {hash : Digest} {receipt : Receipt}
    (shown : receiptOf chain hash = some receipt) :
    ReceiptTrue chain receipt := by
  obtain ⟨⟨number, block, included, status⟩, located, rfl⟩ := Option.map_eq_some_iff.mp shown
  obtain ⟨⟨found, place⟩, listed, chosen⟩ := List.exists_of_findSome?_eq_some located
  obtain ⟨entry, inBlock, same⟩ := Option.map_eq_some_iff.mp chosen
  cases same
  refine ⟨place, found, entry.1, rfl, ?_, rfl, ?_, ?_⟩
  · exact List.mem_zipIdx_iff_getElem?.mp listed
  · exact List.mem_of_find?_eq_some inBlock
  · simpa using List.find?_some inBlock

variable {header : BlockHeader}

theorem headerAt_some {number : Nat} (shown : headerAt chain number = some header) :
    ∃ block, chain.blocks[number]? = some block ∧ header = ⟨number, platform.blockHash block⟩ := by
  obtain ⟨block, placed, rfl⟩ := Option.map_eq_some_iff.mp shown
  exact ⟨block, placed, rfl⟩

theorem headerOf_true {tag : BlockTag} (shown : headerOf chain tag = some header) :
    HeaderTrue chain header tag := by
  cases tag with
  | latest =>
    obtain ⟨block, placed, rfl⟩ := headerAt_some shown
    exact (List.getElem?_eq_some_iff.mp placed).1
  | finalized =>
    simp only [headerOf] at shown
    split at shown
    · cases shown
    · obtain ⟨block, placed, rfl⟩ := headerAt_some shown
      simp only [HeaderTrue]
      omega
  | number number => exact headerAt_some shown

theorem filled_fills (chain : EvmChain platform) (signer : Address) (request : TransactionRequest) :
    Fills platform signer request (filled chain signer request) := by
  refine ⟨recoverAddress_eq rfl, ?_, ?_, ?_, ?_, rfl, rfl, rfl, rfl, rfl⟩
  · intro nonce pinned
    simp [filled, Option.mem_def.mp pinned]
  · intro gas pinned
    simp [filled, Option.mem_def.mp pinned]
  · intro chainId pinned
    simpa [filled] using pinned
  · intro kind pinned
    simp [filled, Option.mem_def.mp pinned]

theorem responseOf_true {chain : CosmosChain platform} {hash : Digest} {response : TxResponse}
    (shown : responseOf chain hash = some response) :
    ResponseTrue chain response := by
  obtain ⟨result, found, rfl⟩ := Option.map_eq_some_iff.mp shown
  intro told code height sameHash sameCode _ _
  cases sameHash
  cases sameCode
  exact ⟨result, List.mem_of_find?_eq_some found, by simpa using List.find?_some found, rfl⟩

theorem replyTo_allowed (honest : Prop) (manner : Manner) (here : Station) (world : Chains platform)
    (op : Call) :
    answers platform honest here world op
      (replyTo manner here world op) := by
  cases op with
  | readJournal => exact .inr rfl
  | readSavedState => exact .inr rfl
  | currentJournal => rfl
  | currentState => rfl
  | fillAndSign signer request =>
    intro envelope same
    cases same
    exact filled_fills world.evm signer request
  | transactionReceipt hash =>
    intro _ receipt same
    exact receiptOf_true (Option.some.inj same)
  | blockByNumber tag =>
    intro _ header same
    exact headerOf_true (Option.some.inj same)
  | queryAccount lcd address =>
    intro _ number sequence same
    cases same
    rfl
  | lookup lcd hash =>
    intro _ response same
    exact responseOf_true (Option.some.inj same)
  | _ => trivial

/-- Replay scripts of a service that runs on the deployment machine. -/
def responder {Launch : Type} (honest : Prop)
    (service : Service deployInterface Stop Station (Chains platform) Launch)
    (machine : service.machine = deployMachine platform honest) :
    Responder service ChainMove Manner where
  move := fun step world => world.move step
  move_sound := by
    intro step world later moved
    rw [machine]
    exact ⟨step, moved⟩
  reply := fun manner here world op => some (replyTo manner here world op)
  reply_sound := by
    intro manner here world op answer replied
    cases replied
    rw [machine]
    exact replyTo_allowed honest manner here world op

def chains : Chains platform where
  evm :=
    { blocks := []
      finalized := 0
      finalized_le := Nat.le_refl 0
      slots_nodup := List.nodup_nil }
  cosmos :=
    { results := []
      sequences := ∅
      hashes_nodup := List.nodup_nil
      consumed_nodup := List.nodup_nil
      consumed_below := by simp
      success_consumed := by simp
      results_made := by simp }
  handed := []

def state (steps : List Step) (credentials : Credentials) : State where
  axelarId := "sample"
  rpcUrl := "rpc"
  targetJson := "json"
  env := .devnetAmplifier
  cosmSalt := "salt"
  itsSalt := none
  itsProxySalt := none
  hardenedPlan := none
  hardenedFingerprint := none
  credentials := credentials
  gatewayDeployer := none
  predictedGatewayAddress := none
  proposals := ∅
  steps := steps

def plan : Plan where
  evmChainId := 1
  axelarChainId := "axelar"
  gatewayOwner := 1
  operatorsOwner := 2
  gasServiceOwner := 3
  itsOwner := 4
  factoryOwner := 5
  gatewayOperator := 6
  proverAdmin := "p"
  signingThreshold := (2, 3)
  evmGasBudget := 10 ^ 12
  cosmosFeeBudget := 10 ^ 12

def wallet : Wallet platform where
  key := ⟨textBytes "m"⟩
  address := "m"
  address_eq := by decide +kernel

def credentials : Credentials where
  rewardsFunderMnemonic := some "m"
  deployerPrivateKey := some "k"

def pendingState (name : StepName) (kind : StepKind) : State :=
  state [pendingStep name kind] credentials

def launchAt (context : State) (options : Options) (op : Operation platform) : Launch platform where
  fingerprint := []
  options := options
  context := context
  operations := [op]

def start : DeployConfig platform := ⟨.idle, Station.initial none (state [] credentials), chains⟩

theorem start_initial : start.Initial := ⟨rfl, ⟨none, state [] credentials, rfl⟩, rfl⟩

abbrev Script := List (Event ChainMove (Launch platform) Manner)

def replay (permit : Journal → Journal → Prop) [∀ journal later, Decidable (permit journal later)]
    (script : Script) : Option (DeployConfig platform) :=
  (responder True (deployService platform True plan) rfl).play
    (fun here _ here' _ => permit here.memory here'.memory) script start

theorem replay_run {permit : Journal → Journal → Prop}
    [∀ journal later, Decidable (permit journal later)] {script : Script}
    {holds : DeployConfig platform → Prop} [DecidablePred holds]
    (found : (replay permit script).any (fun last => holds last) = true) :
    ∃ last, DeployRuns platform True plan permit start last ∧ holds last := by
  obtain ⟨last, run, passed⟩ := Responder.exists_run found
  exact ⟨last, run, of_decide_eq_true passed⟩

def probeScope : Scope := ⟨.evmCompatibilityCheck, "k"⟩

def probeKey : ActionKey := .evm probeScope.step .updateCompatibilityProbe

def probeRequest : TransactionRequest := { destination := some (.call 9), input := some [7] }

def sendProbe (options : Options) : Launch platform :=
  launchAt (pendingState .evmCompatibilityCheck .evmCompat) options
    (.sendEvm probeScope probeRequest .updateCompatibilityProbe)

def recoverProbe (options : Options) : Launch platform :=
  launchAt (pendingState .evmCompatibilityCheck .evmCompat) options
    (.recover probeScope probeKey "lcd")

def probeEnvelope (nonce : U64) : Envelope :=
  filled chains.evm 1
    { preparedRequest plan (Journal.empty []) probeKey 1 probeRequest with
      nonce := some nonce }

def probeNonces (here : Station) : List (Option U64) :=
  (here.fileHistory probeKey).map fun
    | .evm tx => if tx.hash = platform.txHash (probeEnvelope tx.nonce) then
        some tx.nonce else none
    | .cosmos _ => none

def rewardsScope : Scope := ⟨.addRewards, ""⟩

def rewardsKey : ActionKey := .cosmos rewardsScope.step

def rewardsMessage : AnyMessage := ⟨"/cosmwasm.wasm.v1.MsgExecuteContract", [7]⟩

def sendRewards : Launch platform :=
  launchAt (pendingState .addRewards (.cosmosTx "addRewards")) {}
    (.sendCosmos rewardsScope wallet "lcd" "axelar" "uaxl" ⟨0⟩ [rewardsMessage])

def recoverRewards (options : Options) : Launch platform :=
  launchAt (pendingState .addRewards (.cosmosTx "addRewards")) options
    (.recover rewardsScope rewardsKey "lcd")

def rewardsRaw (sequence fee : Nat) : Bytes :=
  (buildAndSignCosmosTx platform wallet.key
    { chainId := "axelar"
      accountNumber := 0
      sequence := sequence
      gasLimit := 3000
      feeAmount := fee
      feeDenom := "uaxl"
      messages := [rewardsMessage] }).getD []

def rewardsTransaction (sequence fee : Nat) : CosmosTransaction where
  intent := cosmosIntent platform "m" "axelar" "uaxl" [rewardsMessage]
  raw := rewardsRaw sequence fee
  hash := platform.sha256 (rewardsRaw sequence fee)
  sender := "m"
  fee := decimalText fee
  sequence := sequence

end Sample

end Axe.Hardened

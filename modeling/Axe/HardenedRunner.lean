import Axe.HardenedRecovery
import Axe.HardenedSteps

namespace Axe.Hardened

/-!
# The runner of a deployment

A run reads the state file, checks it, opens the journal, recovers every
recorded transaction, and then carries out the steps one after the other.  After
each step the state of the contracts is written to the journal and the step is
marked as completed in the state file.
-/

/-- Only the code of the protocol contracts changed. -/
def validateChange (old new : Map String ProtocolIdentity) : Except String Unit :=
  if old.entries.length = new.entries.length then
    old.entries.forM fun entry =>
      match new.lookup entry.1 with
      | none => .error ("protocol contract missing: " ++ entry.1)
      | some now =>
        if entry.2.codeId ≠ now.codeId ∨ entry.2.checksum = now.checksum then
          if entry.2.address = now.address ∧ entry.2.creator = now.creator ∧
              entry.2.admin = now.admin then
            .ok ()
          else
            .error
              (entry.1 ++
                ": protocol address or authority changed; code-upgrade approval cannot override it")
        else
          .error
            (entry.1 ++ ": immutable code checksum changed without a new code ID")
  else
    .error "protocol contract set changed"

def sameProtocols (first second : Map String ProtocolIdentity) : Bool :=
  first.entries.all (fun entry => second.lookup entry.1 = some entry.2) &&
    second.entries.all (fun entry => first.lookup entry.1 = some entry.2)

/-- Record the protocol contracts as observed. -/
def keepProtocols (observed : Map String ProtocolIdentity) : Deploy Unit := do
  let journal ← currentJournal
  writeJournal
    { journal with
      protocols := observed
      protocolHistory :=
        if journal.protocols.entries.isEmpty then
          journal.protocolHistory
        else
          journal.protocolHistory ++ [journal.protocols] }

/-- Record changed protocol contracts if the operator agrees. -/
def approveProtocols (observed : Map String ProtocolIdentity) : Deploy Unit := do
  let journal ← currentJournal
  if sameProtocols journal.protocols observed then
    .done ()
  else if journal.protocols.entries.isEmpty then
    keepProtocols observed
  else do
    check (validateChange journal.protocols observed)
    let accepted ← askOperator "Accept these protocol code changes for this deployment?"
    if accepted then keepProtocols observed else .fail (.paused "protocol changes not approved")

/-- The policy of the flags, of the journal, or the default. -/
def resolveConfirmations (options : Options) : Deploy EvmConfirmationPolicy :=
  match options.evmConfirmations with
  | some policy => .done policy
  | none => do
    let saved : Option Journal ←
      need .readJournal id (.failed "cannot read the deployment journal")
    match saved with
    | some journal => .done journal.evmConfirmations
    | none => .done (.confirmations 1)

def persistConfirmations (policy : EvmConfirmationPolicy) : Deploy Unit := do
  let journal ← currentJournal
  writeJournal { journal with evmConfirmations := policy }

variable (lib : Platform)

/-- Record the hash of the inputs, once. -/
def commitInputs (fingerprintInputs : Bytes) : Deploy Unit := do
  let journal ← currentJournal
  if journal.inputsHash.isSome then
    .done ()
  else do
    let bytes : Bytes ← inquire (.inputSnapshot fingerprintInputs)
    let journal ← currentJournal
    writeJournal { journal with inputsHash := some (lib.keccak256 bytes) }

def isOwned (name : String) : Bool :=
  [ "Operators", "AxelarGateway", "AxelarGasService", "InterchainTokenService",
    "InterchainTokenFactory" ].contains name

def addressIf (applies : Bool) (view : View) : Deploy (Option Address) :=
  if applies then do
    let address : Address ← inquire (.addressView view)
    .done (some address)
  else
    .done none

def signerHashIf (applies : Bool) (address : Address) : Deploy (Option Digest) :=
  if applies then do
    let hash : Digest ←
      inquire (.hashView ⟨address, "signersHashByEpoch(uint256)", [.uint 1], none⟩)
    .done (some hash)
  else
    .done none

/-- What the chain shows of a contract. -/
def observe (name : String) (address : Address) : Deploy ContractEvidence := do
  let code : Bytes ← inquire (.codeAt address)
  Program.ensure (code ≠ [])
    (.failed (name ++ " has no code at " ++ lib.addressText address))
  let owned := isOwned name
  let gateway := name = "AxelarGateway"
  let owner ← addressIf owned ⟨address, "owner()", [], none⟩
  let implementation ←
    addressIf (owned && name ≠ "Operators") ⟨address, "implementation()", [], none⟩
  let operator ← addressIf gateway ⟨address, "operator()", [], none⟩
  let signerHash ← signerHashIf gateway address
  .done
    { address := address
      codeHash := lib.keccak256 code
      owner := owner
      implementation := implementation
      operator := operator
      signerHash := signerHash }

def evidenceTargets (state : State)
    (contracts : List ConfiguredContract) : List (String × String × Address) :=
  contracts.flatMap
      (fun contract =>
        (contract.address.map fun address =>
            (contract.name, contract.name, address)).toList ++
          (contract.implementation.map fun address =>
            (contract.name ++ "Implementation", "implementation", address)).toList) ++
    state.steps.flatMap fun step =>
      [ EvmLabel.tokenManagerDeployer, .interchainToken, .interchainTokenDeployer,
        .tokenManager, .tokenHandler ].filterMap
        fun helper =>
          (step.itsAddresses.bind fun addresses => addresses.get helper).map
            fun address => (helper.text, helper.text, address)

def observeAll : List (String × String × Address) → Map String ContractEvidence →
      Deploy (Map String ContractEvidence)
  | [], found => .done found
  | (key, name, address) :: rest, found => do
    let evidence ← observe lib name address
    observeAll rest (found.insert key evidence)

/-- What the chain shows of all contracts. -/
def snapshotEvidence : Deploy (Map String ContractEvidence) := do
  let contracts : List ConfiguredContract ← inquire .configuredContracts
  let state ← currentState
  observeAll lib (evidenceTargets state contracts) ∅

/-- The contract whose owner a step changes. -/
def affectedContract : StepName → Option String
  | .transferGatewayOwnership => some "AxelarGateway"
  | .transferOperatorsOwnership => some "Operators"
  | .transferGasServiceOwnership => some "AxelarGasService"
  | _ => none

/-- The observation is the saved one, up to a transfer of ownership. -/
def compatible (saved observed : ContractEvidence) (transfers : Bool) : Bool :=
  (if transfers then { saved with owner := observed.owner } else saved) = observed

/-- The expected contracts are observed as they were. -/
def checkEvidence (expected observed : Map String ContractEvidence) (action : Option StepName)
    (message : String) : Except String Unit :=
  expected.entries.forM fun entry =>
    match observed.lookup entry.1 with
    | none => .error (entry.1 ++ " missing from deployment configuration")
    | some now =>
      if compatible entry.2 now
          (decide (action.bind affectedContract = some entry.1)) then
        .ok ()
      else
        .error (entry.1 ++ message)

def pendingName (state : State) : Option StepName :=
  (nextPendingStep state).map fun next => next.2.name

/-- The chain is as it was at the last checkpoint. -/
def evidenceCheck : Deploy Unit := do
  let journal ← currentJournal
  let state ← currentState
  let pending := pendingName state
  let journaled :=
    pending.any fun step => journal.actions.entries.any fun entry => decide (entry.1.step = step)
  let observed ← snapshotEvidence lib
  check
    (checkEvidence journal.evidence observed (if journaled then pending else none)
      ": on-chain state differs from the verified checkpoint")

/-- Write what is seen of the contracts to the journal. -/
def captureEvidence : Deploy Unit := do
  let evidence ← snapshotEvidence lib
  let journal ← currentJournal
  let state ← currentState
  check
    (checkEvidence journal.evidence evidence (pendingName state)
      " changed outside the current action")
  writeJournal { journal with evidence := evidence }

/-- The step is saved as done, or was just completed. -/
def stepDone (state : State) (completed : Option StepName) (name : StepName) : Bool :=
  completed = some name ||
    state.steps.any fun step => step.name = name && step.status = .completed

def checkWhen (applies : Bool) (program : Deploy Unit) : Deploy Unit :=
  if applies then program else .done ()

/-- Check what the completed steps have set up. -/
def checkPostconditions (session : Session) (completed : Option StepName) : Deploy Unit := do
  let state ← currentState
  let done := stepDone state completed
  checkWhen (done .saveDeployedContracts) (review "chain contracts and registration")
  checkWhen (done .axelarGateway) (verifyGateway lib session)
  checkWhen (done .registerOperators) (review "operators")
  checkWhen (done .deployInterchainTokenService) (review "ITS implementations")
  checkWhen (done .waitItsHubRegistration) (review "ITS Hub registration")

def signerFor (state : State) (step : StepName) : Except String String :=
  match step with
  | .addCosmWasmConfig | .predictGatewayAddress | .instantiateChainContracts
  | .waitInstantiateProposal | .saveDeployedContracts | .addRewards
  | .registerItsOnHub | .waitItsHubRegistration | .waitForVerifierSet => .ok ""
  | step => resolveEvmKey state step

def Journal.ordered (journal : Journal) : List (ActionKey × Transaction) :=
  (journal.actions.entries.map fun entry => (entry.1, entry.2)).insertionSort
    fun first second => first.1.text ≤ second.1.text

/-- Recover one recorded action. -/
def reconcileAction (session : Session) (lcd : String)
    (action : ActionKey × Transaction) : Deploy Unit := do
  let state ← currentState
  let signer ← attemptValue (signerFor state action.1.step)
  recoverAction lib session ⟨action.1.step, signer⟩ action.1 action.2 lcd

/-- Without governance, the recorded Cosmos actions execute contracts directly. -/
def validateDirect (state : State) (actions : List (ActionKey × Transaction)) :
    Except String Unit :=
  if state.env.deploymentUsesGovernance then
    .ok ()
  else
    actions.forM fun action =>
      match action.2 with
      | .evm _ => .ok ()
      | .cosmos _ => validateSubmission lib action.2

/-- Bring every recorded action to its result, in the order of their keys. -/
def reconcilePass (session : Session) (lcd : String)
    (actions : List (ActionKey × Transaction)) : Deploy Unit :=
  Program.each (reconcileAction lib session lcd) actions

/-- Whether the submission of a step was recovered. -/
def recoverSubmission (session : Session) (step : Step) : Deploy Bool :=
  match step.kind with
  | .cosmosTx proposalKey =>
    if proposalKey = "addRewards" then
      .done false
    else
      governanceRecover lib session step.name proposalKey
  | _ => .done false

/-- Pause before the activation unless it is asked for. -/
def checkActivation (activate : Bool) (step : StepName) : Deploy Unit :=
  if step = .waitForVerifierSet ∧ activate = false then do
    review "verifier handoff"
    .fail
      (.paused "Deployment paused for verifier setup. Progress saved; you can close axe.")
  else
    .done ()

/-- Execute a step that was not recovered. -/
def carryOut (session : Session) (scope : Scope) (index : Nat) (step : Step)
    (recovered : Bool) : Deploy Unit :=
  if recovered then .done () else executeStep lib session scope index step

def completeStep (index : Nat) : Deploy Unit := do
  let state ← currentState
  setState (markStepCompleted state index)
  saveState

/-- Carry out a step, check the result and mark it as done. -/
def advance (session : Session) (index : Nat) (step : Step) : Deploy Unit := do
  checkActivation session.options.activate step.name
  let recovered ← recoverSubmission lib session step
  checkWhen (!recovered) (review "step preview")
  let state ← currentState
  let signer ← attemptValue (signerFor state step.name)
  carryOut lib session ⟨step.name, signer⟩ index step recovered
  checkPostconditions lib session (some step.name)
  captureEvidence lib
  completeStep index

/-- Carry out the pending steps in order; every step is completed at most once. -/
def advanceAll (session : Session) : Nat → Deploy Unit
  | 0 => .fail (.failed "more steps than planned")
  | rounds + 1 => do
    let state ← currentState
    match nextPendingStep state with
    | none => .done ()
    | some (index, step) => do
      advance lib session index step
      advanceAll session rounds

/-- Recover what is recorded, then carry out what is pending. -/
def execute (session : Session) : Deploy Unit := do
  let journal ← currentJournal
  let config : AxelarConfig ← inquire .axelarConfig
  check (validateOptions session.options journal.ordered)
  let state ← currentState
  check (validateDirect lib state journal.ordered)
  reconcilePass lib session config.lcd journal.ordered
  evidenceCheck lib
  checkPostconditions lib session none
  let state ← currentState
  advanceAll lib session (state.steps.length + 1)
  let state ← currentState
  Program.ensure (∀ step ∈ state.steps, step.status = .completed)
    (.failed "incomplete deployment")
  verifyCompleted lib session

/-- A deployment that has started has a journal. -/
def validateJournalPresence (state : State) (present : Bool) : Except String Unit :=
  if present ∨ state.hardenedFingerprint = none ∧ ∀ step ∈ state.steps, step.status = .pending then
    .ok ()
  else
    .error
      "deployment journal is missing; restore it from backup before continuing. A replacement journal could duplicate transactions"

/-- The go-ahead is accepted only at or after the checkpoint. -/
def validateActivation (state : State) : Except String Unit :=
  match state.steps.findIdx? fun step => step.name = .waitForVerifierSet with
  | none => .error "missing verifier checkpoint"
  | some checkpoint =>
    if ∀ step ∈ state.steps.take checkpoint, step.status = .completed then
      .ok ()
    else
      .error
        "--activate is only valid at or after the verifier checkpoint; first run without it"

def sameDeployment (first second : State) : Bool :=
  first.env = second.env && first.axelarId = second.axelarId &&
    first.targetJson = second.targetJson && first.rpcUrl = second.rpcUrl &&
    first.cosmSalt = second.cosmSalt && first.itsSalt = second.itsSalt &&
    first.itsProxySalt = second.itsProxySalt

/-- Take the saved state, if it is of the same deployment. -/
def reloadCommittedState : Deploy Unit := do
  let saved : Option State ← need .readSavedState id (.failed "cannot read the state file")
  match saved with
  | none => .done ()
  | some current => do
    let state ← currentState
    Program.ensure
      (sameDeployment current state = true ∧ current.hardenedPlan = state.hardenedPlan)
      (.failed "deployment changed while acquiring its lock")
    setState current

def checkJournalPresence : Deploy Unit := do
  let state ← currentState
  let saved : Option Journal ←
    need .readJournal id (.failed "cannot read the deployment journal")
  check (validateJournalPresence state saved.isSome)

def orEnvironment (environment : String → Option String) (name : String)
    (value : Option String) : Option String :=
  match nonblank value with
  | some _ => value
  | none => environment name

/-- Fill in what is missing from the environment. -/
def loadMissingEnvironment (environment : String → Option String) (state : State) : State :=
  let fill := orEnvironment environment
  { state with
    itsSalt := fill "ITS_SALT" state.itsSalt
    itsProxySalt := fill "ITS_PROXY_SALT" state.itsProxySalt
    credentials :=
      { mnemonic :=
          if state.credentials.mnemonic = "" then
            (environment "MNEMONIC").getD ""
          else
            state.credentials.mnemonic
        adminMnemonic :=
          (nonblank (environment "MULTISIG_PROVER_MNEMONIC")).or
            state.credentials.adminMnemonic
        rewardsFunderMnemonic := nonblank (environment "REWARDS_FUNDER_MNEMONIC")
        deployerPrivateKey := fill "DEPLOYER_PRIVATE_KEY" state.credentials.deployerPrivateKey
        gatewayDeployerPrivateKey :=
          fill "GATEWAY_DEPLOYER_PRIVATE_KEY" state.credentials.gatewayDeployerPrivateKey
        gasServiceDeployerPrivateKey :=
          fill "GAS_SERVICE_DEPLOYER_PRIVATE_KEY"
            state.credentials.gasServiceDeployerPrivateKey
        itsDeployerPrivateKey :=
          fill "ITS_DEPLOYER_PRIVATE_KEY" state.credentials.itsDeployerPrivateKey } }

def keyErrors (entry : String × Option String) : List String :=
  match nonblank entry.2 with
  | none => ["missing " ++ entry.1]
  | some key => if (lib.evmAddress key).isSome then [] else ["invalid " ++ entry.1]

def mnemonicErrors (name : String) (value : Option String) : List String :=
  match nonblank value with
  | none => []
  | some mnemonic =>
    if (deriveAxelarWallet lib mnemonic).isSome then [] else ["invalid " ++ name]

/-- Everything that is missing from the settings of a deployment, or invalid. -/
def configurationErrors (state : State) : List String :=
  let credentials := state.credentials
  [ ("MNEMONIC", some credentials.mnemonic),
    ("REWARDS_FUNDER_MNEMONIC", credentials.rewardsFunderMnemonic),
    ("SALT", some state.cosmSalt),
    ("ITS_SALT", state.itsSalt),
    ("ITS_PROXY_SALT", state.itsProxySalt) ].flatMap
      (fun entry => if (nonblank entry.2).isNone then ["missing " ++ entry.1] else []) ++
    mnemonicErrors lib "MNEMONIC" (some credentials.mnemonic) ++
    mnemonicErrors lib "REWARDS_FUNDER_MNEMONIC" credentials.rewardsFunderMnemonic ++
    mnemonicErrors lib "MULTISIG_PROVER_MNEMONIC" credentials.adminMnemonic ++
    [ ("DEPLOYER_PRIVATE_KEY", credentials.deployerPrivateKey),
      ("GAS_SERVICE_DEPLOYER_PRIVATE_KEY", credentials.gasServiceDeployerPrivateKey),
      ("ITS_DEPLOYER_PRIVATE_KEY", credentials.itsDeployerPrivateKey),
      ("GATEWAY_DEPLOYER_PRIVATE_KEY", credentials.gatewayDeployerPrivateKey) ].flatMap
      (keyErrors lib)

/-- The configuration is complete and consistent. -/
def validateState (state : State) : Except String State :=
  let gateway := (nonblank state.credentials.gatewayDeployerPrivateKey).bind lib.evmAddress
  let mismatch : List String :=
    match state.gatewayDeployer, gateway with
    | some saved, some derived =>
      if saved = derived then
        []
      else
        ["gateway deployer key does not match the saved gatewayDeployer address"]
    | _, _ => []
  let errors := configurationErrors lib state ++ mismatch
  if errors.isEmpty then
    .ok { state with gatewayDeployer := gateway }
  else
    .error
      ("deployment configuration is incomplete or invalid:\n  - " ++ "\n  - ".intercalate errors ++
        "\nSet the missing variables and retry. For an existing deployment, rerun `axe deploy run`, not `init`.")

/-- Complete the settings from the environment, and check them. -/
def configure : Deploy Unit := do
  let state ← currentState
  let environment : String → Option String ← ask .environment
  let configured ←
    attemptValue (validateState lib (loadMissingEnvironment environment state))
  review "RPC_URL and mainnet accounts"
  setState configured

def preflight : Deploy Preflight := do
  let state ← currentState
  Program.ensure (state.hardenedPlan.isSome = true) (.failed "missing hardened plan")
  check (validateSteps state)
  inquire .preflight

def rememberFingerprint (fingerprint : Digest) : Deploy Unit := do
  let state ← currentState
  setState { state with hardenedFingerprint := some fingerprint }
  saveState

def runWithInputs (options : Options) : Deploy Unit := do
  let state ← currentState
  let plan ← Program.orFail state.hardenedPlan (.failed "missing hardened plan")
  configure lib
  validateProverAdmin lib
  review "instantiate permissions"
  let state ← currentState
  check (if options.activate then validateActivation state else .ok ())
  let policy ← resolveConfirmations options
  let checked ← preflight
  checkJournalPresence
  loadSession checked.fingerprint
  commitInputs lib checked.fingerprintInputs
  persistConfirmations policy
  rememberFingerprint checked.fingerprint
  approveProtocols checked.protocols
  execute lib ⟨plan, options⟩

/-- A run after the lock was taken. -/
def runCommitted (options : Options) : Deploy Unit := do
  reloadCommittedState
  checkJournalPresence
  review "pinned inputs"
  runWithInputs lib options

/-- A run; a pause saves the state and ends it well. -/
def runDeployment (options : Options) : Deploy Unit := do
  let outcome : Except Stop Unit ← (runCommitted lib options).attempt
  match outcome with
  | .ok () => .done ()
  | .error (.paused _) => saveState
  | .error (.failed message) => .fail (.failed message)

end Axe.Hardened

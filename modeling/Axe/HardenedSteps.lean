import Axe.HardenedVerifiers

namespace Axe.Hardened

/-!
# The steps of a deployment

Every step reads what it needs, sends its transactions under the labels of the
step, and saves what later steps read.  All transactions go through the journal,
so that a step that is carried out again continues where it stopped.
-/

def deployRequest (code : Bytes) : TransactionRequest :=
  { destination := some .create, input := some code }

def callRequest (address : Address) (input : Bytes) : TransactionRequest :=
  { destination := some (.call address), input := some input }

def updateStep (index : Nat) (change : Step → Except String Step) : Deploy Unit := do
  let state ← currentState
  let step ← Program.orFail state.steps[index]? (.failed "index out of bounds")
  let changed ← attemptValue (change step)
  setState { state with steps := state.steps.set index changed }

def saveStep (index : Nat) (change : Step → Except String Step) : Deploy Unit := do
  updateStep index change
  saveState

variable (lib : Platform)

def saltFromKey (key : String) : Digest := lib.keccak256 (lib.abiEncode [.text key])

def signerOf (privateKey : String) : Deploy Address :=
  Program.orFail (lib.evmAddress privateKey) (.failed "invalid private key")

def summarise (failures : Nat) : Deploy Unit :=
  Program.ensure (failures = 0)
    (.failed ("EVM compatibility check failed: " ++ toString failures ++
        " critical check(s) failed"))

/-- Deploy the probe and update it, between checks of the node. -/
def runEvmCompat (session : Session) (scope : Scope) (privateKey : String) : Deploy Unit := do
  let _ ← signerOf lib privateKey
  let unhealthy : Nat ← inquire (.failedChecks .health)
  summarise unhealthy
  let code : Bytes ← inquire (.artifact .compatibilityProbe)
  let deployed ←
    sendEvm lib session scope (deployRequest code) .deployCompatibilityProbe
  let address ←
    Program.orFail deployed.contractAddress
      (.failed "probe receipt has no contract address")
  let _ ←
    sendEvm lib session scope
      (callRequest address (lib.callData "updateValue(uint256)" [.uint 42]))
      .updateCompatibilityProbe
  let failures : Nat ← inquire (.failedChecks .contract)
  summarise failures

/-- Deploy code at the next nonce. -/
def deployCreate (session : Session) (scope : Scope) (bytecode : Bytes) : Deploy Address := do
  let receipt ←
    sendEvm lib session scope (deployRequest bytecode) (.contract scope.step)
  Program.orFail receipt.contractAddress (.failed "no contract address in receipt")

def deployCall (code : Bytes) (salt : Digest) : Bytes :=
  lib.callData "deploy(bytes,bytes32)" [.bytes code, .word salt]

def deployedAddress (factory deployer : Address) (code : Bytes) (salt : Digest) : Deploy Address :=
  inquire
    (.addressView ⟨factory, "deployedAddress(bytes,address,bytes32)",
        [.bytes code, .address deployer, .word salt], none⟩)

/-- Deploy code through the factory. -/
def deployCreate2 (session : Session) (scope : Scope) (deployer : Address)
    (bytecode : Bytes) : Deploy Address := do
  let factory : Address ← inquire (.contractAddress "ConstAddressDeployer")
  let state ← currentState
  let saltText := if state.env = .mainnet then scope.step.text else state.cosmSalt
  let salt := saltFromKey lib saltText
  let code :=
    if scope.step = .operators then bytecode ++ lib.abiEncode [.address deployer] else bytecode
  let address ← deployedAddress factory deployer code salt
  let _ ←
    sendEvm lib session scope (callRequest factory (deployCall lib code salt))
      (.contract scope.step)
  .done address

def checkFactory (step : StepName) (deployer address : Address)
    (bytecode : Bytes) : Deploy Unit := do
  let deployed : Bytes ← inquire (.codeAt address)
  if step = .constAddressDeployer ∨ step = .create3Deployer then do
    let expected : Bytes ← inquire (.constructorCode deployer bytecode)
    Program.ensure (deployed ≠ [] ∧ deployed = expected)
      (.failed (step.text ++ ": deployed factory runtime differs from the pinned artifact"))
  else
    .done ()

def deployContract (session : Session) (scope : Scope) (create2 : Bool) (deployer : Address)
    (bytecode : Bytes) : Deploy Address :=
  if create2 then
    deployCreate2 lib session scope deployer bytecode
  else
    deployCreate lib session scope bytecode

/-- Deploy the contract of a step and save its address. -/
def runEvmDeploy (session : Session) (scope : Scope) (create2 : Bool) (privateKey : String)
    (artifact : Artifact) : Deploy Unit := do
  let bytecode : Bytes ← inquire (.artifact artifact)
  let deployer ← signerOf lib privateKey
  let address ← deployContract lib session scope create2 deployer bytecode
  checkFactory scope.step deployer address bytecode
  review "contract configuration"

def runPredictAddress : Deploy Unit := do
  let state ← currentState
  let deployer ←
    Program.orFail state.gatewayDeployer
      (.failed "no gatewayDeployer in state. Run init first")
  let nonce : U64 ← need (.transactionCount deployer) id unavailable
  let pending : U64 ← inquire (.pendingCount deployer)
  Program.ensure (nonce = pending)
    (.failed
      "gateway deployer has pending transactions; wait for them before predicting its address")
  Program.ensure (nonce.toNat + 1 < 2 ^ 64) (.failed "gateway nonce overflow")
  setState
    { state with
      predictedGatewayAddress := some (lib.createAddress deployer (nonce + 1)) }

def runConfigEdit : Deploy Unit := do
  let state ← currentState
  Program.ensure (state.predictedGatewayAddress.isSome = true)
    (.failed "no predictedGatewayAddress in state. Run predict-address step first")
  Program.ensure (state.hardenedPlan.isSome = true) (.failed "missing deployment plan")
  review "chain configuration"

def rememberProposal (key : String) (id : Nat) : Deploy Unit := do
  let state ← currentState
  setState { state with proposals := state.proposals.insert key id }

def pinPredictions (predicted : CosmosDeployment) : Deploy Unit := do
  let journal ← currentJournal
  match journal.cosmosDeployment with
  | some saved =>
    Program.ensure (saved = predicted)
      (.failed
        "Cosmos deployment predictions changed; restore the approved inputs before submitting")
  | none => writeJournal { journal with cosmosDeployment := some predicted }

def submitStep (session : Session) (scope : Scope)
    (mnemonic proposalKey : String) : Deploy Unit := do
  let state ← currentState
  let response ← submitMessages lib session scope mnemonic
  if state.env.deploymentUsesGovernance then do
    let id ←
      Program.orFail (lib.proposalId response)
        (.failed "proposal_id not found in tx events")
    rememberProposal proposalKey id
  else
    .done ()

/-- Submit the transaction of a step. -/
def runCosmosTx (session : Session) (scope : Scope) (proposalKey : String) : Deploy Unit := do
  let state ← currentState
  let mnemonic ← attemptValue (cosmosMnemonic state.credentials scope.step)
  match scope.step with
  | .instantiateChainContracts => do
    review "instantiate permissions"
    let predicted : CosmosDeployment ← inquire .predictedDeployment
    pinPredictions predicted
    submitStep lib session scope mnemonic proposalKey
  | .addRewards => do
    let response ← submitMessages lib session scope mnemonic
    Program.ensure (response.code.getD 0 = 0)
      (.failed ("add_rewards tx failed: " ++ response.rawLog))
  | .registerItsOnHub => submitStep lib session scope mnemonic proposalKey
  | step => .fail (.failed ("unknown cosmos-tx step: " ++ step.text))

def validateSubmission (saved : Transaction) : Except String Unit :=
  match saved with
  | .evm _ => .error "expected Cosmos transaction"
  | .cosmos saved =>
    match lib.decodeTxRaw saved.raw with
    | none => .error "failed to decode Protobuf message"
    | some tx =>
      match lib.decodeTxBody tx.bodyBytes with
      | none => .error "failed to decode Protobuf message"
      | some body =>
        if body.messages ≠ [] ∧ body.messages.all fun message =>
              message.typeUrl = "/cosmwasm.wasm.v1.MsgExecuteContract" then
          .ok ()
        else
          .error
            "this devnet journal contains governance submissions; resume using its original binary and finish those proposals before switching execution modes"

def submittingStep (key : String) : Option StepName :=
  if key = "instantiate" then some .instantiateChainContracts
  else if key = "itsHubRegister" then some .registerItsOnHub
  else none

def directCheck (session : Session) (key : String) : Deploy Unit := do
  let step ←
    Program.orFail (submittingStep key) (.failed "unknown direct execution checkpoint")
  let found ← getAction (.cosmos step)
  let saved ←
    Program.orFail found (.failed ("no journaled direct execution for " ++ step.text))
  check (validateSubmission lib saved)
  let config : AxelarConfig ← inquire .axelarConfig
  match saved with
  | .evm _ => .fail (.failed "expected Cosmos transaction")
  | .cosmos saved => do
    let _ ← resumeCosmos lib session config.lcd saved (.cosmos step)
    .done ()

/-- A proposal must be the one that the recorded transaction submitted. -/
def validateIdentity (session : Session) (lcd key : String) (id : Nat) : Deploy Unit := do
  let step ← Program.orFail (submittingStep key) (.failed "unexpected proposal key")
  let found ← getAction (.cosmos step)
  match found with
  | some (.cosmos saved) => do
    let response ← resumeCosmos lib session lcd saved (.cosmos step)
    Program.ensure (lib.proposalId response = some id)
      (.failed "proposal ID does not match recorded submission")
    review "proposal payload"
    let state ← currentState
    Program.ensure (state.proposals.lookup key = some id)
      (.failed "proposal identity mismatch")
  | _ => .fail (.failed "proposal has no signed transaction journal")

/--
Ask for the status of a proposal until its vote ends.  There is no limit in the
source; a process that never sees the end of the vote is one that is stopped.
-/
def waitUntilVotingEnds (id : Nat) : Nat → Deploy ProposalStatus
  | 0 => .fail (.failed "stopped while the proposal was voted on")
  | rounds + 1 => do
    ask .sleep
    let status : ProposalStatus ← inquire (.proposal id)
    if status = .votingPeriod then waitUntilVotingEnds id rounds else .done status

def proposalOutcome (session : Session) (lcd key : String) (id : Nat)
    (status : ProposalStatus) : Deploy ProposalStatus :=
  if status = .votingPeriod then do
    let rounds : Nat ← ask .patience
    let status ← waitUntilVotingEnds id rounds
    validateIdentity lib session lcd key id
    .done status
  else
    .done status

/-- Wait for a proposal, and go on only if it passed. -/
def governanceCheck (session : Session) (key : String) : Deploy Unit := do
  let state ← currentState
  if state.env.deploymentUsesGovernance then do
    let id ←
      Program.orFail (state.proposals.lookup key)
        (.failed ("missing proposal for " ++ key))
    let config : AxelarConfig ← inquire .axelarConfig
    let status : ProposalStatus ← inquire (.proposal id)
    validateIdentity lib session config.lcd key id
    let outcome ← proposalOutcome lib session config.lcd key id status
    match outcome with
    | .passed => .done ()
    | .depositPeriod =>
      .fail
        (.paused ("Proposal " ++ toString id ++
            " is still in its deposit period; inspect its deposit requirements before voting. No replacement was submitted"))
    | _ =>
      .fail
        (.failed ("Proposal " ++ toString id ++
            " cannot advance this deployment. Review its governance outcome with the network operators. Rerunning axe will not replace this proposal; keep the state and journal for recovery"))
  else
    directCheck lib session key

/-- Resume the recorded submission of a step; whether there was one. -/
def governanceRecover (session : Session) (step : StepName)
    (proposalKey : String) : Deploy Bool := do
  let found ← getAction (.cosmos step)
  match found with
  | some (.cosmos saved) => do
    let config : AxelarConfig ← inquire .axelarConfig
    let response ← resumeCosmos lib session config.lcd saved (.cosmos step)
    let state ← currentState
    if state.env.deploymentUsesGovernance then do
      let id ←
        Program.orFail (lib.proposalId response)
          (.failed "proposal_id not found in tx events")
      rememberProposal proposalKey id
      .done true
    else do
      check (validateSubmission lib (.cosmos saved))
      .done true
  | _ => .done false

def runCosmosQuery : Deploy Unit := do
  let _ ← inquire .axelarConfig
  let journal ← currentJournal
  Program.ensure (journal.cosmosDeployment.isSome = true)
    (.failed "missing journaled Cosmos predictions; restore the deployment journal")
  review "Coordinator deployment"

def registerOperator (session : Session) (scope : Scope)
    (operators operator : Address) : Deploy Unit := do
  let registered := View.mk operators "isOperator(address)" [.address operator] none
  let already : Bool ← inquire (.flagView registered)
  if already then
    .done ()
  else do
    let _ ←
      sendEvm lib session scope
        (callRequest operators (lib.callData "addOperator(address)" [.address operator]))
        (.registerOperator (lib.addressText operator))
    let now : Bool ← inquire (.flagView registered)
    Program.ensure (now = true) (.failed "operator registration did not take effect")

/-- Register the operators of the network. -/
def runRegisterOperators (session : Session) (scope : Scope)
    (privateKey : String) : Deploy Unit := do
  let _ ← signerOf lib privateKey
  let operators : Address ← inquire (.contractAddress "Operators")
  let state ← currentState
  Program.each (registerOperator lib session scope operators)
    state.env.axelarOperators

def transferContract (session : Session) (scope : Scope) (contract : String)
    (address signer newOwner current : Address) : Deploy Unit :=
  if current = newOwner then
    .done ()
  else do
    Program.ensure (current = signer)
      (.failed (contract ++ ": unexpected current owner " ++ lib.addressText current))
    let _ ←
      sendEvm lib session scope
        (callRequest address (lib.callData "transferOwnership(address)" [.address newOwner]))
        .transferOwnership
    .done ()

/-- Transfer a contract to its owner. -/
def runTransferOwnership (session : Session) (scope : Scope) (contract : String)
    (newOwner : Address) (privateKey : String) : Deploy Unit := do
  let signer ← signerOf lib privateKey
  let address : Address ← inquire (.contractAddress contract)
  let owner := View.mk address "owner()" [] none
  let current : Address ← inquire (.addressView owner)
  transferContract lib session scope contract address signer newOwner current
  let now : Address ← inquire (.addressView owner)
  Program.ensure (now = newOwner) (.failed "ownership transfer postcondition failed")
  review "contract configuration"

def encodeGatewaySetupParams (operator : Address) (signers : List (Address × U128))
    (threshold : U128) (nonce : Digest) : Bytes :=
  lib.abiEncode
    [.address operator, .list [weightedSigners signers threshold nonce]]

def gatewayImplementationCode (bytecode : Bytes) (domainSeparator : Digest)
    (network : Network) : Bytes :=
  bytecode ++ lib.abiEncode
      [ .uint 15, .word domainSeparator,
        .uint (BitVec.ofNat 256 network.gatewayRotationDelaySeconds) ]

def gatewayProxyCode (bytecode : Bytes) (implementation owner : Address)
    (setupParams : Bytes) : Bytes :=
  bytecode ++ lib.abiEncode [.address implementation, .address owner, .bytes setupParams]

/-- Deploy the implementation at its pinned nonce. -/
def deployGatewayImplementation (session : Session) (scope : Scope) (artifact : Artifact)
    (domainSeparator : Digest) (nonce : U64) : Deploy Address := do
  let bytecode : Bytes ← inquire (.artifact artifact)
  let state ← currentState
  let code := gatewayImplementationCode lib bytecode domainSeparator state.env
  let receipt ←
    sendEvm lib session scope { deployRequest code with nonce := some nonce }
      .gatewayImplementation
  let address ←
    Program.orFail receipt.contractAddress
      (.failed "no contract address in implementation receipt")
  let _ ← inquire (.codeAt address)
  .done address

/-- Deploy the proxy at its pinned nonce. -/
def deployGatewayProxy (session : Session) (scope : Scope) (implementation owner : Address)
    (setupParams : Bytes) (artifact : Artifact) (nonce : U64) : Deploy Address := do
  let bytecode : Bytes ← inquire (.artifact artifact)
  let code := gatewayProxyCode lib bytecode implementation owner setupParams
  let receipt ←
    sendEvm lib session scope
      { deployRequest code with gas := some 5000000, nonce := some nonce }
      .gatewayProxy
  Program.ensure (receipt.status = true)
    (.failed "proxy deployment tx reverted on-chain (status=0)")
  Program.orFail receipt.contractAddress (.failed "no contract address in proxy receipt")

/-- Deploy the implementation and the proxy of the gateway. -/
def runDeployGateway (session : Session) (scope : Scope) (index : Nat) (privateKey : String)
    (implementationArtifact proxyArtifact : Artifact) : Deploy Unit := do
  let deployer ← signerOf lib privateKey
  let domainSeparator : Digest ← inquire .domainSeparator
  let nonce ← gatewayNonce lib deployer
  let implementation ←
    deployGatewayImplementation lib session scope implementationArtifact
      domainSeparator nonce
  saveStep index (Step.setImplementationAddress implementation)
  refreshBeforeGateway lib
  let initial ← initialSet lib
  let state ← currentState
  let plan ← Program.orFail state.hardenedPlan (.failed "missing deployment plan")
  let setupParams :=
    encodeGatewaySetupParams lib plan.gatewayOperator initial.signers
      initial.threshold initial.nonce
  let proxy ←
    deployGatewayProxy lib session scope implementation deployer setupParams
      proxyArtifact (nonce + 1)
  Program.ensure (some proxy = state.predictedGatewayAddress)
    (.failed "gateway address differs from the pinned Cosmos configuration")
  review "contract configuration"

def initCall (implementation owner : Address) : Bytes :=
  lib.callData "init(address,address,bytes)"
    [.address implementation, .address owner, .bytes []]

def initializeProxy (session : Session) (scope : Scope)
    (proxy implementation owner : Address) : Deploy Unit := do
  let stored : U256 ← inquire (.implementationSlot proxy)
  if stored = 0 then do
    let receipt ←
      sendEvm lib session scope
        (callRequest proxy (initCall lib implementation owner))
        .gasProxyInitialization
    Program.ensure (receipt.status = true) (.failed "proxy init tx reverted on-chain")
  else
    Program.ensure (stored.setWidth 160 = implementation)
      (.failed "proxy has a conflicting implementation")

def deployProxyAtomically (session : Session) (scope : Scope) (bytecode : Bytes)
    (implementation deployer : Address) : Deploy Address := do
  let factory : Address ← inquire (.contractAddress "ConstAddressDeployer")
  let salt := saltFromKey lib "AxelarGasService"
  let address ← deployedAddress factory deployer bytecode salt
  let receipt ←
    sendEvm lib session scope
      (callRequest factory (lib.callData "deployAndInit(bytes,bytes32,bytes)"
          [ .bytes bytecode, .word salt, .bytes (initCall lib implementation deployer) ]))
      .gasProxy
  let block ←
    Program.orFail receipt.blockHash (.failed "gas proxy receipt has no block hash")
  let found : Address ←
    inquire (.addressView ⟨address, "implementation()", [], some block⟩)
  let owner : Address ← inquire (.addressView ⟨address, "owner()", [], some block⟩)
  Program.ensure (found = implementation ∧ owner = deployer)
    (.failed
      "atomic Gas Service initialization could not be verified at its receipt block; resume to recheck the saved transaction")
  .done address

def deployProxy (session : Session) (scope : Scope) (artifact : Artifact)
    (implementation deployer : Address) : Deploy Address := do
  let bytecode : Bytes ← inquire (.artifact artifact)
  let state ← currentState
  if state.env = .mainnet then
    deployProxyAtomically lib session scope bytecode implementation deployer
  else do
    let receipt ←
      sendEvm lib session scope (deployRequest bytecode) .gasProxy
    let address ←
      Program.orFail receipt.contractAddress
        (.failed "no contract address in proxy receipt")
    initializeProxy lib session scope address implementation deployer
    .done address

/-- Deploy the implementation of the gas service and its proxy. -/
def runDeployUpgradable (session : Session) (scope : Scope) (index : Nat) (privateKey : String)
    (implementationArtifact proxyArtifact : Artifact) : Deploy Unit := do
  let deployer ← signerOf lib privateKey
  let collector : Address ← inquire (.contractAddress "Operators")
  let bytecode : Bytes ← inquire (.artifact implementationArtifact)
  let receipt ←
    sendEvm lib session scope
      (deployRequest (bytecode ++ lib.abiEncode [.address collector]))
      .gasImplementation
  Program.ensure (receipt.status = true)
    (.failed "implementation deployment tx reverted on-chain")
  let implementation ←
    Program.orFail receipt.contractAddress
      (.failed "no contract address in implementation receipt")
  saveStep index (Step.setImplementationAddress implementation)
  let proxy ←
    deployProxy lib session scope proxyArtifact implementation deployer
  saveStep index (Step.setProxyAddress proxy)
  review "contract configuration"

structure ItsDeploymentPlan where
  deployer : Address
  serviceOwner : Address
  factoryOwner : Address
  constDeployer : Address
  create3Deployer : Address
  gateway : Address
  gasService : Address
  chainAxelarId : String
  hubAddress : String
  helperSalt : Digest
  implementationSalt : Digest
  proxySalt : Digest
  factorySalt : Digest
  itsProxy : Address
  factoryProxy : Address
  deriving DecidableEq

def recordItsDeployer (index : Nat) (step : Step) (deployer : Address) : Deploy Unit :=
  if step.itsAddresses.bind ItsAddresses.itsDeployer = some deployer then
    .done ()
  else
    saveStep index (Step.setItsDeployer deployer)

/-- Collect what the token service is deployed with. -/
def prepareItsPlan (index : Nat) (step : Step) (deployer : Address) : Deploy ItsDeploymentPlan := do
  recordItsDeployer index step deployer
  let constDeployer : Address ← inquire (.contractAddress "ConstAddressDeployer")
  let create3Deployer : Address ← inquire (.contractAddress "Create3Deployer")
  let gateway : Address ← inquire (.contractAddress "AxelarGateway")
  let gasService : Address ← inquire (.contractAddress "AxelarGasService")
  let chainAxelarId : String ← inquire .chainAxelarId
  let hubAddress : String ← inquire (.axelarField "InterchainTokenService")
  let state ← currentState
  let itsSalt ←
    Program.orFail state.itsSalt
      (.failed "no itsSalt in state. Set ITS_SALT in .env and re-run init")
  let proxySalt ←
    Program.orFail state.itsProxySalt
      (.failed "no itsProxySalt in state. Set ITS_PROXY_SALT in .env and re-run init")
  let serviceSalt := saltFromKey lib ("ITS " ++ proxySalt)
  let factorySalt := saltFromKey lib ("ITS Factory " ++ proxySalt)
  let itsProxy ← deployedAddress create3Deployer deployer [] serviceSalt
  let factoryProxy ← deployedAddress create3Deployer deployer [] factorySalt
  let plan ← Program.orFail state.hardenedPlan (.failed "missing deployment plan")
  .done
    { deployer := deployer
      serviceOwner := plan.itsOwner
      factoryOwner := plan.factoryOwner
      constDeployer := constDeployer
      create3Deployer := create3Deployer
      gateway := gateway
      gasService := gasService
      chainAxelarId := chainAxelarId
      hubAddress := hubAddress
      helperSalt := saltFromKey lib ("ITS " ++ itsSalt)
      implementationSalt := saltFromKey lib ("ITS " ++ itsSalt ++ " Implementation")
      proxySalt := serviceSalt
      factorySalt := factorySalt
      itsProxy := itsProxy
      factoryProxy := factoryProxy }

def deployItsPart (session : Session) (scope : Scope) (index : Nat) (plan : ItsDeploymentPlan)
    (label : EvmLabel) (artifact : Artifact) (arguments : List AbiValue) : Deploy Address := do
  let bytecode : Bytes ← inquire (.artifact artifact)
  let code := if arguments.isEmpty then bytecode else bytecode ++ lib.abiEncode arguments
  let predicted ← deployedAddress plan.constDeployer plan.deployer code plan.helperSalt
  let _ ←
    sendEvm lib session scope
      (callRequest plan.constDeployer (deployCall lib code plan.helperSalt)) label
  saveStep index (Step.setItsAddress label predicted)
  .done predicted

/-- Deploy a part of the token service at an address that its salt fixes. -/
def deployViaCreate3 (session : Session) (scope : Scope) (plan : ItsDeploymentPlan)
    (label : EvmLabel) (artifact : Artifact) (arguments : List AbiValue) (salt : Digest)
    (predicted : Address) : Deploy Address := do
  let bytecode : Bytes ← inquire (.artifact artifact)
  let code := bytecode ++ lib.abiEncode arguments
  let _ ←
    sendEvm lib session scope
      (callRequest plan.create3Deployer (deployCall lib code salt)) label
  .done predicted

structure ItsHelpers where
  tokenManagerDeployer : Address
  interchainTokenDeployer : Address
  tokenManager : Address
  tokenHandler : Address
  deriving DecidableEq

def deployItsHelpers (session : Session) (scope : Scope) (index : Nat)
    (plan : ItsDeploymentPlan) : Deploy ItsHelpers := do
  let deploy := deployItsPart lib session scope index plan
  let tokenManagerDeployer ← deploy .tokenManagerDeployer .tokenManagerDeployer []
  let interchainToken ←
    deploy .interchainToken .interchainToken [.address plan.itsProxy]
  let interchainTokenDeployer ←
    deploy .interchainTokenDeployer .interchainTokenDeployer [.address interchainToken]
  let tokenManager ← deploy .tokenManager .tokenManager [.address plan.itsProxy]
  let tokenHandler ← deploy .tokenHandler .tokenHandler []
  .done
    { tokenManagerDeployer := tokenManagerDeployer
      interchainTokenDeployer := interchainTokenDeployer
      tokenManager := tokenManager
      tokenHandler := tokenHandler }

def deployItsService (session : Session) (scope : Scope) (index : Nat) (plan : ItsDeploymentPlan)
    (helpers : ItsHelpers) : Deploy Unit := do
  let predicted ←
    deployedAddress plan.create3Deployer plan.deployer [] plan.implementationSalt
  let implementation ←
    deployViaCreate3 lib session scope plan .interchainTokenServiceImpl
      .interchainTokenService
      [ .address helpers.tokenManagerDeployer, .address helpers.interchainTokenDeployer,
        .address plan.gateway,
        .address plan.gasService,
        .address plan.factoryProxy,
        .text plan.chainAxelarId,
        .text plan.hubAddress,
        .address helpers.tokenManager,
        .address helpers.tokenHandler ]
      plan.implementationSalt predicted
  saveStep index (Step.setItsAddress .interchainTokenServiceImpl implementation)
  let setupParams := lib.abiEncode [.address plan.deployer, .text plan.chainAxelarId, .list []]
  let _ ←
    deployViaCreate3 lib session scope plan .interchainTokenServiceProxy
      .interchainProxy
      [.address implementation, .address plan.serviceOwner, .bytes setupParams]
      plan.proxySalt plan.itsProxy
  .done ()

def deployItsFactory (session : Session) (scope : Scope) (index : Nat)
    (plan : ItsDeploymentPlan) : Deploy Unit := do
  let implementation ←
    deployItsPart lib session scope index plan .interchainTokenFactoryImpl
      .interchainTokenFactory [.address plan.itsProxy]
  let _ ←
    deployViaCreate3 lib session scope plan .interchainTokenFactoryProxy
      .interchainProxy [.address implementation, .address plan.factoryOwner, .bytes []]
      plan.factorySalt plan.factoryProxy
  .done ()

/-- Deploy the parts of the token service. -/
def runDeployIts (session : Session) (scope : Scope) (index : Nat) (step : Step)
    (privateKey : String) : Deploy Unit := do
  let deployer ← signerOf lib privateKey
  let plan ← prepareItsPlan lib index step deployer
  let helpers ← deployItsHelpers lib session scope index plan
  deployItsService lib session scope index plan helpers
  deployItsFactory lib session scope index plan
  review "contract configuration"

/-- The key that signs a step. -/
def resolveEvmKey (state : State) (step : StepName) : Except String String :=
  if state.env = .mainnet ∧ (step = .operators ∨ step = .registerOperators ∨
        step = .transferOperatorsOwnership) then
    match state.credentials.deployerPrivateKey with
    | some key => .ok key
    | none => .error "missing DEPLOYER_PRIVATE_KEY for mainnet Operators"
  else
    let named : Option (String × Option String) :=
      match step with
      | .evmCompatibilityCheck | .constAddressDeployer | .create3Deployer =>
        some ("deployerPrivateKey", state.credentials.deployerPrivateKey)
      | .deployInterchainTokenService =>
        some ("itsDeployerPrivateKey", state.credentials.itsDeployerPrivateKey)
      | .axelarGateway | .operators | .registerOperators
      | .transferOperatorsOwnership | .transferGatewayOwnership =>
        some
          ("gatewayDeployerPrivateKey", state.credentials.gatewayDeployerPrivateKey)
      | .transferGasServiceOwnership | .axelarGasService =>
        some
          ("gasServiceDeployerPrivateKey", state.credentials.gasServiceDeployerPrivateKey)
      | _ => none
    match named with
    | none => .error ("unknown EVM signing role for step " ++ step.text)
    | some (_, some key) => .ok key
    | some (label, none) =>
      .error
        ("missing " ++ label ++ "; restore the deployment role key in the environment")

def stepKey (step : StepName) : Deploy String := do
  let state ← currentState
  attemptValue (resolveEvmKey state step)

def stepArtifact (step : StepName) : Deploy Artifact :=
  Program.orFail ((artifactPathsForStep step).map Prod.fst)
    (.failed "deployment artifact path is missing")

def stepProxyArtifact (step : StepName) : Deploy Artifact :=
  Program.orFail ((artifactPathsForStep step).bind Prod.snd)
    (.failed "proxy artifact path is missing")

/-- Execute a step by its kind. -/
def executeStep (session : Session) (scope : Scope) (index : Nat) (step : Step) : Deploy Unit :=
  match step.kind with
  | .evmCompat => do
    let key ← stepKey step.name
    runEvmCompat lib session scope key
  | .deployCreate => do
    let key ← stepKey step.name
    let artifact ← stepArtifact step.name
    runEvmDeploy lib session scope false key artifact
  | .deployCreate2 => do
    let key ← stepKey step.name
    let artifact ← stepArtifact step.name
    runEvmDeploy lib session scope true key artifact
  | .registerOperators => do
    let key ← stepKey step.name
    runRegisterOperators lib session scope key
  | .transferOwnership contract newOwner => do
    let key ← stepKey step.name
    runTransferOwnership lib session scope contract newOwner key
  | .deployGateway _ => do
    let proxy ← stepProxyArtifact step.name
    let key ← stepKey step.name
    let artifact ← stepArtifact step.name
    runDeployGateway lib session scope index key artifact proxy
  | .predictAddress => runPredictAddress lib
  | .configEdit => runConfigEdit
  | .cosmosTx proposalKey => runCosmosTx lib session scope proposalKey
  | .cosmosPoll proposalKey => governanceCheck lib session proposalKey
  | .cosmosQuery => runCosmosQuery
  | .waitVerifierSet => initializeVerifiers lib session scope
  | .deployUpgradable _ _ => do
    let artifact ← stepArtifact step.name
    let proxy ← stepProxyArtifact step.name
    let key ← stepKey step.name
    runDeployUpgradable lib session scope index key artifact proxy
  | .deployIts _ => do
    let key ← stepKey step.name
    runDeployIts lib session scope index step key

end Axe.Hardened

import Axe.HardenedJournal

namespace Axe.Hardened

/-!
# The plan, the steps and the state file

The state file has the list of steps with their status.  `Plan.steps` is the
list a deployment starts with, and `validateSteps` is the check that a saved
list is that list, done in order.
-/

/-- The Axelar environment a deployment belongs to. -/
inductive Network where
  | mainnet
  | testnet
  | stagenet
  | devnetAmplifier
  deriving DecidableEq

/-- The networks on which contracts are instantiated by proposals. -/
def Network.deploymentUsesGovernance : Network → Bool
  | devnetAmplifier => false
  | _ => true

/-- How long the gateway waits between two rotations. -/
def Network.gatewayRotationDelaySeconds : Network → Nat
  | mainnet => 86400
  | testnet => 3600
  | stagenet => 300
  | devnetAmplifier => 0

/-- The operators that a network is set up with. -/
def Network.axelarOperators : Network → List Address
  | mainnet =>
    [ 0x0CDeE446bD3c2E0D11568eeDB859Aa7112BE657a, 0x1a07a2Ee043Dd3922448CD53D20Aae88a67e486E ]
  | testnet =>
    [ 0x8f23e84c49624a22e8c252684129910509ade4e2, 0x3b401fa00191acb03c24ebb7754fe35d34dd1abd ]
  | stagenet =>
    [ 0x7054acf1b2d01e33b86235458edf0046cc354293, 0xf669ed1ebc608c48f58b6e290df566ede7fb1103 ]
  | devnetAmplifier =>
    [ 0x01c793e1F8185a2527C5a2Ef3b4a3FBCb8982690, 0xDb32E08fd5d6823E7f0298963E487d5df4e54b1E ]

/-- The chains, the owners and the budgets of a deployment. -/
structure Plan where
  evmChainId : U64
  axelarChainId : String
  gatewayOwner : Address
  operatorsOwner : Address
  gasServiceOwner : Address
  itsOwner : Address
  factoryOwner : Address
  gatewayOperator : Address
  proverAdmin : String
  signingThreshold : Nat × Nat
  evmGasBudget : Nat
  cosmosFeeBudget : Nat
  deriving DecidableEq

/-- The flags of one run. -/
structure Options where
  activate : Bool := false
  evmConfirmations : Option EvmConfirmationPolicy := none
  evmWaitSeconds : Nat := 1800
  bumpFees : Option String := none
  cosmosFee : Option U128 := none
  retryFailed : Option String := none
  retryGasLimit : Option U64 := none
  recoveryLcd : Option String := none
  deriving DecidableEq

/-- Whether a step is done. -/
inductive StepStatus where
  | pending
  | completed
  deriving DecidableEq

/-- The contracts of the token service that exist already. -/
structure ItsAddresses where
  itsDeployer : Option Address := none
  tokenManagerDeployer : Option Address := none
  interchainToken : Option Address := none
  interchainTokenDeployer : Option Address := none
  tokenManager : Option Address := none
  tokenHandler : Option Address := none
  interchainTokenServiceImpl : Option Address := none
  interchainTokenFactoryImpl : Option Address := none
  deriving DecidableEq

/-- What a step does, with what it has saved so far. -/
inductive StepKind where
  | evmCompat
  | deployCreate
  | deployCreate2
  | predictAddress
  | configEdit
  | cosmosTx (proposalKey : String)
  | cosmosPoll (proposalKey : String)
  | cosmosQuery
  | waitVerifierSet
  | deployGateway (implementationAddress : Option Address)
  | registerOperators
  | deployUpgradable (implementationAddress proxyAddress : Option Address)
  | deployIts (addresses : ItsAddresses)
  | transferOwnership (contract : String) (newOwner : Address)
  deriving DecidableEq

/-- A step with its name, its status and its kind. -/
structure Step where
  name : StepName
  status : StepStatus
  kind : StepKind
  deriving DecidableEq

/-- The private keys and mnemonics of a deployment. -/
structure Credentials where
  mnemonic : String := ""
  adminMnemonic : Option String := none
  rewardsFunderMnemonic : Option String := none
  deployerPrivateKey : Option String := none
  gatewayDeployerPrivateKey : Option String := none
  gasServiceDeployerPrivateKey : Option String := none
  itsDeployerPrivateKey : Option String := none
  deriving DecidableEq

/-- The environment of a deployment, its steps and the credentials of this run. -/
structure State where
  axelarId : String
  rpcUrl : String
  targetJson : String
  env : Network
  cosmSalt : String
  itsSalt : Option String
  itsProxySalt : Option String
  hardenedPlan : Option Plan
  hardenedFingerprint : Option Digest
  credentials : Credentials
  gatewayDeployer : Option Address
  predictedGatewayAddress : Option Address
  proposals : Map String Nat
  steps : List Step

/-- The state without the credentials, as it is saved. -/
def State.stripped (state : State) : State := { state with credentials := {} }

/-- A step that was not done yet. -/
def pendingStep (name : StepName) (kind : StepKind) : Step := ⟨name, .pending, kind⟩

/-- The transfer of a contract to its owner. -/
def ownershipStep (name : StepName) (contract : String) (newOwner : Address) : Step :=
  pendingStep name (.transferOwnership contract newOwner)

/-- The steps of a deployment in their order. -/
def defaultSteps : List Step :=
  let newOwner : Address := 0x49845e5d9985d8dc941462293ed38EEfF18B0eAE
  [ pendingStep .evmCompatibilityCheck .evmCompat, pendingStep .constAddressDeployer .deployCreate,
    pendingStep .create3Deployer .deployCreate2,
    pendingStep .predictGatewayAddress .predictAddress,
    pendingStep .addCosmWasmConfig .configEdit,
    pendingStep .instantiateChainContracts (.cosmosTx "instantiate"),
    pendingStep .waitInstantiateProposal (.cosmosPoll "instantiate"),
    pendingStep .saveDeployedContracts .cosmosQuery,
    pendingStep .addRewards (.cosmosTx "addRewards"),
    pendingStep .waitForVerifierSet .waitVerifierSet,
    pendingStep .axelarGateway (.deployGateway none),
    pendingStep .operators .deployCreate2,
    pendingStep .registerOperators .registerOperators,
    pendingStep .axelarGasService (.deployUpgradable none none),
    ownershipStep .transferOperatorsOwnership "Operators" newOwner,
    ownershipStep .transferGatewayOwnership "AxelarGateway" newOwner,
    ownershipStep .transferGasServiceOwnership "AxelarGasService" newOwner,
    pendingStep .deployInterchainTokenService (.deployIts {}),
    pendingStep .registerItsOnHub (.cosmosTx "itsHubRegister"),
    pendingStep .waitItsHubRegistration (.cosmosPoll "itsHubRegister") ]

/-- Give a transfer of ownership the owner of the plan. -/
def Plan.assignOwner (plan : Plan) (step : Step) : Except String Step :=
  match step.kind with
  | .transferOwnership contract _ =>
    if contract = "Operators" then
      .ok { step with kind := .transferOwnership contract plan.operatorsOwner }
    else if contract = "AxelarGateway" then
      .ok { step with kind := .transferOwnership contract plan.gatewayOwner }
    else if contract = "AxelarGasService" then
      .ok { step with kind := .transferOwnership contract plan.gasServiceOwner }
    else
      .error "unexpected ownership step"
  | _ => .ok step

/-- The steps of a deployment with the owners of the plan. -/
def Plan.steps (plan : Plan) : Except String (List Step) := defaultSteps.mapM plan.assignOwner

/-- The address that was saved under a label. -/
def ItsAddresses.get (addresses : ItsAddresses) : EvmLabel → Option Address
  | .tokenManagerDeployer => addresses.tokenManagerDeployer
  | .interchainToken => addresses.interchainToken
  | .interchainTokenDeployer => addresses.interchainTokenDeployer
  | .tokenManager => addresses.tokenManager
  | .tokenHandler => addresses.tokenHandler
  | .interchainTokenServiceImpl => addresses.interchainTokenServiceImpl
  | .interchainTokenFactoryImpl => addresses.interchainTokenFactoryImpl
  | _ => none

/-- Save an address under a label. -/
def ItsAddresses.set (addresses : ItsAddresses)
    (address : Address) : EvmLabel → Except String ItsAddresses
  | .tokenManagerDeployer => .ok { addresses with tokenManagerDeployer := some address }
  | .interchainToken => .ok { addresses with interchainToken := some address }
  | .interchainTokenDeployer => .ok { addresses with interchainTokenDeployer := some address }
  | .tokenManager => .ok { addresses with tokenManager := some address }
  | .tokenHandler => .ok { addresses with tokenHandler := some address }
  | .interchainTokenServiceImpl => .ok { addresses with interchainTokenServiceImpl := some address }
  | .interchainTokenFactoryImpl => .ok { addresses with interchainTokenFactoryImpl := some address }
  | other => .error ("unknown ITS sub-deploy name '" ++ other.text ++ "'")

/-- The addresses of the token service that the step has saved. -/
def Step.itsAddresses (step : Step) : Option ItsAddresses :=
  match step.kind with
  | .deployIts addresses => some addresses
  | _ => none

/-- Save an address of the token service in its step. -/
def Step.setItsAddress (label : EvmLabel) (address : Address) (step : Step) : Except String Step :=
  match step.kind with
  | .deployIts addresses =>
    (addresses.set address label).map fun addresses => { step with kind := .deployIts addresses }
  | _ => .error ("cannot set ITS address '" ++ label.text ++ "' on a non-DeployIts step")

/-- Save the deployer of the token service; a new one makes the others stale. -/
def Step.setItsDeployer (deployer : Address) (step : Step) : Except String Step :=
  match step.kind with
  | .deployIts addresses =>
    if addresses.itsDeployer.all fun previous => previous = deployer then
      .ok
        { step with
          kind := .deployIts { addresses with itsDeployer := some deployer } }
    else
      .ok { step with kind := .deployIts { itsDeployer := some deployer } }
  | _ => .error "cannot set ITS address 'itsDeployer' on a non-DeployIts step"

/-- Save the address of the implementation. -/
def Step.setImplementationAddress (address : Address) (step : Step) : Except String Step :=
  match step.kind with
  | .deployGateway _ => .ok { step with kind := .deployGateway (some address) }
  | .deployUpgradable _ proxy => .ok { step with kind := .deployUpgradable (some address) proxy }
  | _ => .error "cannot set an implementation address on step kind"

/-- Save the address of the proxy. -/
def Step.setProxyAddress (address : Address) (step : Step) : Except String Step :=
  match step.kind with
  | .deployUpgradable implementation _ =>
    .ok { step with kind := .deployUpgradable implementation (some address) }
  | _ => .error "cannot set a proxy address on step kind"

/-- A value in the saved state. -/
inductive FieldValue where
  | text (value : String)
  | address (value : Address)
  deriving DecidableEq

/-- A field for an address that is known. -/
def addressField (name : String) : Option Address → List (String × FieldValue)
  | none => []
  | some address => [(name, .address address)]

/-- What is saved of a kind of step. -/
def StepKind.fields : StepKind → List (String × FieldValue)
  | evmCompat => [("kind", .text "evm-compat")]
  | deployCreate => [("kind", .text "deploy-create")]
  | deployCreate2 => [("kind", .text "deploy-create2")]
  | predictAddress => [("kind", .text "predict-address")]
  | configEdit => [("kind", .text "config-edit")]
  | cosmosTx proposalKey => [("kind", .text "cosmos-tx"), ("proposalKey", .text proposalKey)]
  | cosmosPoll proposalKey => [("kind", .text "cosmos-poll"), ("proposalKey", .text proposalKey)]
  | cosmosQuery => [("kind", .text "cosmos-query")]
  | waitVerifierSet => [("kind", .text "wait-verifier-set")]
  | deployGateway implementationAddress =>
    ("kind", .text "deploy-gateway") :: addressField "implementationAddress" implementationAddress
  | registerOperators => [("kind", .text "register-operators")]
  | deployUpgradable implementationAddress proxyAddress =>
    ("kind", .text "deploy-upgradable") ::
      (addressField "implementationAddress" implementationAddress ++
        addressField "proxyAddress" proxyAddress)
  | deployIts addresses =>
    ("kind", .text "deploy-its") :: (addressField "itsDeployerAddress" addresses.itsDeployer ++
        addressField "TokenManagerDeployerAddress"
          addresses.tokenManagerDeployer ++
        addressField "InterchainTokenAddress" addresses.interchainToken ++
        addressField "InterchainTokenDeployerAddress"
          addresses.interchainTokenDeployer ++
        addressField "TokenManagerAddress" addresses.tokenManager ++
        addressField "TokenHandlerAddress" addresses.tokenHandler ++
        addressField "InterchainTokenServiceImplAddress"
          addresses.interchainTokenServiceImpl ++
        addressField "InterchainTokenFactoryImplAddress"
          addresses.interchainTokenFactoryImpl)
  | transferOwnership contract newOwner =>
    [("kind", .text "transfer-ownership"), ("contract", .text contract),
      ("newOwner", .address newOwner)]

/-- The status as it is saved. -/
def StepStatus.text : StepStatus → String
  | pending => "pending"
  | completed => "completed"

/-- All that is saved of a step. -/
def Step.fields (step : Step) : List (String × FieldValue) :=
  ("name", .text step.name.text) :: ("status", .text step.status.text) :: step.kind.fields

/-- The first step that is not done, with its place. -/
def nextPendingStep (state : State) : Option (Nat × Step) :=
  (state.steps.zipIdx.find? fun entry => entry.1.status = .pending).map
    fun entry => (entry.2, entry.1)

/-- Mark the step at a place as done. -/
def markStepCompleted (state : State) (index : Nat) : State :=
  { state with
    steps := state.steps.modify index fun step =>
      { step with status := .completed } }

/-- Every field of the planned step, the status apart, is in the saved one. -/
def Step.definedAs (expected actual : Step) : Bool :=
  expected.fields.all fun field => field.1 = "status" || actual.fields.lookup field.1 = some field.2

/-- Compare the saved steps with the planned ones, and check their order. -/
def validateStepList : Bool → List (Step × Step) → Except String Unit
  | _, [] => .ok ()
  | pending, (expected, actual) :: rest =>
    if expected.definedAs actual then
      match actual.status with
      | .pending => validateStepList true rest
      | .completed =>
        if pending then
          .error
            "non-sequential deployment progress; restore the last valid checkpoint"
        else
          validateStepList pending rest
    else
      .error
        (expected.name.text ++ ": step definition differs from approved plan")

/-- The steps are those of a deployment, and the done ones come first. -/
def validateSteps (state : State) : Except String Unit :=
  match state.hardenedPlan with
  | none => .error "missing plan"
  | some plan =>
    match plan.steps with
    | .error message => .error message
    | .ok expected =>
      if expected.length = state.steps.length then
        validateStepList false (expected.zip state.steps)
      else
        .error "deployment step list changed"

end Axe.Hardened

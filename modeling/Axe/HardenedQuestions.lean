import Axe.DecimalText
import Axe.DeploymentState
import Axe.HardenedPlatform

namespace Axe.Hardened

/-!
# What the deployment asks the outside

The steps read the configuration file, the compiled contracts and the state of
the contracts on both chains.  Each of these reads is a question with a typed
answer.  Nothing is assumed about the answers: a node may say anything.
-/

inductive Artifact where
  | compatibilityProbe
  | constAddressDeployer
  | create3Deployer
  | gatewayImplementation
  | gatewayProxy
  | operators
  | gasImplementation
  | gasProxy
  | tokenManagerDeployer
  | interchainToken
  | interchainTokenDeployer
  | tokenManager
  | tokenHandler
  | interchainTokenService
  | interchainTokenFactory
  | interchainProxy
  deriving DecidableEq

/-- The artifacts of a step: the contract and its proxy. -/
def artifactPathsForStep : StepName → Option (Artifact × Option Artifact)
  | .constAddressDeployer => some (.constAddressDeployer, none)
  | .create3Deployer => some (.create3Deployer, none)
  | .axelarGateway => some (.gatewayImplementation, some .gatewayProxy)
  | .operators => some (.operators, none)
  | .axelarGasService => some (.gasImplementation, some .gasProxy)
  | _ => none

structure AxelarConfig where
  lcd : String
  chainId : String
  feeDenom : String
  gasPrice : GasPrice
  deriving DecidableEq

structure ConfiguredContract where
  name : String
  address : Option Address
  implementation : Option Address
  deriving DecidableEq

inductive Amount where
  | text (value : String)
  | number (value : U64)
  deriving DecidableEq

/-- The amount as a number, if it is one. -/
def Amount.value : Amount → Option U128
  | text value => (parseUnsigned (2 ^ 128) value).map (BitVec.ofNat 128)
  | number value => some (value.setWidth 128)

structure ProverSigner where
  identity : String
  address : String
  ecdsa : String
  weight : Amount
  deriving DecidableEq

structure ProverSet where
  id : String
  signers : List ProverSigner
  threshold : Amount
  createdAt : U64
  deriving DecidableEq

structure VerifierService where
  minNumVerifiers : Nat
  maxNumVerifiers : Option Nat
  deriving DecidableEq

inductive ProposalStatus where
  | votingPeriod
  | depositPeriod
  | passed
  | unknown (status : String)
  deriving DecidableEq

structure Preflight where
  fingerprint : Digest
  fingerprintInputs : Bytes
  protocols : Map String ProtocolIdentity

inductive CompatibilityPhase where
  | health
  | contract
  deriving DecidableEq

/-- A function of a contract, called without a transaction. -/
structure View where
  contract : Address
  function : String
  arguments : List AbiValue := []
  block : Option Digest := none

/-- What a step asks without changing anything. -/
inductive Question where
  | axelarConfig
  | chainAxelarId
  | axelarField (path : String)
  | contractAddress (name : String)
  | configuredContracts
  | domainSeparator
  | artifact (artifact : Artifact)
  | codeAt (address : Address)
  | constructorCode (sender : Address) (code : Bytes)
  | implementationSlot (proxy : Address)
  | addressView (view : View)
  | wordView (view : View)
  | hashView (view : View)
  | flagView (view : View)
  | pendingCount (address : Address)
  | failedChecks (phase : CompatibilityPhase)
  | proverSet
  | verifierService
  | activeVerifiers
  | proverAdmin
  | preflight
  | inputSnapshot (fingerprintInputs : Bytes)
  | proposal (id : Nat)
  | predictedDeployment
  | stepMessages (step : StepName) (sender : String)

/-- What is answered to each question. -/
def Question.Answer : Question → Type
  | axelarConfig => AxelarConfig
  | chainAxelarId => String
  | axelarField _ => String
  | contractAddress _ => Address
  | configuredContracts => List ConfiguredContract
  | domainSeparator => Digest
  | artifact _ => Bytes
  | codeAt _ => Bytes
  | constructorCode _ _ => Bytes
  | implementationSlot _ => U256
  | addressView _ => Address
  | wordView _ => U256
  | hashView _ => Digest
  | flagView _ => Bool
  | pendingCount _ => U64
  | failedChecks _ => Nat
  | proverSet => Option ProverSet
  | verifierService => VerifierService
  | activeVerifiers => Option (List String)
  | proverAdmin => String
  | preflight => Preflight
  | inputSnapshot _ => Bytes
  | proposal _ => ProposalStatus
  | predictedDeployment => CosmosDeployment
  | stepMessages _ _ => List AnyMessage

end Axe.Hardened

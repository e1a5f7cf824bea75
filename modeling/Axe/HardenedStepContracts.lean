import Axe.HardenedStagedContracts

namespace Axe.Hardened

/-!
# Contracts of the steps

Every step but the gateway is safe: it records transactions of its own step and
leaves the process at its stage.
-/

section Verifiers

variable {lib : Platform} {honest : Prop} {files : Files} {plan : Plan}
variable {count : Nat} {pinned : Option Address} {launches : List Launched}

theorem safe_queryVerifierSet : Safe lib honest files plan count pinned launches
      (queryVerifierSet lib) := by
  refine .bind (.inquire _) fun _ => .bind (.inquire _) fun _ => ?_
  refine .bind (.inquire .proverSet) fun found => ?_
  cases found with
  | none => exact .done none
  | some set =>
    refine .bind (.inquire _) fun _ => .bind (.inquire .verifierService) fun _ => ?_
    refine .currentState fun _ _ => .orFail fun _ _ => ?_
    exact .attemptValue fun _ _ => .done _

theorem safe_showCandidates : Safe lib honest files plan count pinned launches
      (showCandidates lib) := by
  refine .bind (.inquire _) fun _ => .bind (.inquire _) fun _ => ?_
  refine .bind (.inquire .verifierService) fun _ => ?_
  refine .bind (.inquire .activeVerifiers) fun active => ?_
  cases active with
  | none => exact .bind (.review _) fun _ => .fail _
  | some identities => exact .ensure fun _ => .lastCheck _

theorem safe_validateProverAdmin : Safe lib honest files plan count pinned launches
      (validateProverAdmin lib) := by
  refine .currentState fun state fits => .ensure fun _ => ?_
  refine .bind (.inquire .proverAdmin) fun _ => .attemptValue fun _ _ => ?_
  exact .setState ⟨fits.hasPlan, fits.staged, fits.predicted⟩

theorem safe_saveDecision (initial : InitialSigners) (approved : Bool) :
    Safe lib honest (Opened lib honest) plan count pinned launches
      (saveDecision initial approved) := by
  unfold saveDecision
  split
  · refine .quietly fun here world ready => ?_
    refine keeps_currentJournal fun _ _ => ?_
    refine Meets.ensure_bind (fun absent => ?_) (fun _ => trivial)
    exact keeps_writeJournal
      (fun _ outcome _ => .commit _ outcome ready.synced (.approve initial absent))
      (fun _ _ => Station.synced_written here _) (fun _ _ _ _ => trivial)
  · exact .fail _

theorem safe_approveVerifierSet (initial : InitialSigners) :
    Safe lib honest (Opened lib honest) plan count pinned launches
      (approveVerifierSet initial) :=
  .bind (.getAction _) fun _ => .ensure fun _ =>
    .bind (.askOperator _) fun approved => safe_saveDecision initial approved

theorem safe_initialSet : Safe lib honest files plan count pinned launches (initialSet lib) := by
  refine .bind .currentJournal fun journal => ?_
  split
  · exact .ensure fun _ => .done _
  · exact .fail _

theorem safe_observationBlock :
    Safe lib honest files plan count pinned launches observationBlock := by
  refine .bind .currentJournal fun _ => .bind (.need fun _ _ _ => rfl) fun _ => ?_
  refine .orFail fun _ _ => ?_
  split
  · exact .done _
  · split
    · exact .done _
    · exact .ensure fun _ => .bind (.need fun _ _ _ => rfl) fun _ => .lastOrFail _ _

theorem safe_checkRotationHistory (address : Address) (block : Digest) (epoch : U256)
    (rotations : Map U64 Digest) :
    Safe lib honest files plan count pinned launches
      (checkRotationHistory address block epoch rotations) := by
  unfold checkRotationHistory
  split
  · exact .done ()
  · exact .ensure fun _ => .bind (.inquire _) fun _ => .lastEnsure _ _

theorem safe_acceptRotation (address : Address) (block : Digest) (epoch : U256) :
    Safe lib honest (Opened lib honest) plan count pinned launches
      (acceptRotation address block epoch) := by
  refine .bind (.inquire _) fun current => .bind .currentJournal fun journal => ?_
  refine .bind (safe_checkRotationHistory _ _ _ _) fun _ => .ensure fun _ => ?_
  split
  · exact .done ()
  · refine .bind (.askOperator _) fun accepted => ?_
    split
    · exact .amend fun _ => ⟨rfl, rfl, rfl, rfl, rfl, rfl, rfl⟩
    · exact .fail _

theorem safe_reviewRotation (address : Address) (block : Digest) (epoch : U256) :
    Safe lib honest (Opened lib honest) plan count pinned launches
      (reviewRotation address block epoch) := by
  unfold reviewRotation
  split
  · exact safe_acceptRotation address block epoch
  · exact .done ()

theorem safe_verifyGateway (session : Session) :
    Safe lib honest (Opened lib honest) plan count pinned launches
      (verifyGateway lib session) := by
  refine .currentState fun _ _ => .bind (.inquire _) fun _ => .ensure fun _ => ?_
  refine .bind safe_observationBlock fun _ => .bind (.inquire _) fun _ => ?_
  refine .ensure fun _ => .bind safe_initialSet fun _ => .bind (.inquire _) fun _ => ?_
  refine .bind (.inquire _) fun _ => .ensure fun _ => ?_
  refine .bind (safe_reviewRotation _ _ _) fun _ => .bind (.inquire _) fun _ => ?_
  exact .lastEnsure _ _

theorem safe_verifyCompleted (session : Session) :
    Safe lib honest (Opened lib honest) plan count pinned launches
      (verifyCompleted lib session) := by
  refine .bind (safe_verifyGateway session) fun _ => .each fun expected _ => ?_
  exact .bind (.inquire _) fun _ => .bind (.inquire _) fun _ => .lastEnsure _ _

end Verifiers

section Sending

variable {lib : Platform} {honest : Prop} {session : Session} {scope : Scope}
variable {count : Nat} {pinned : Option Address} {launches : List Launched}

abbrev SafeStep (lib : Platform) (honest : Prop) (session : Session) (count : Nat)
    (pinned : Option Address) (launches : List Launched) {Value : Type}
    (program : Deploy Value) : Prop :=
  Safe lib honest (Opened lib honest) session.plan count pinned launches
    program

variable (sends : Sends scope count launches)

include sends

theorem safe_submitMessages (mnemonic : String) : SafeStep lib honest session count pinned launches
      (submitMessages lib session scope mnemonic) := by
  refine .bind (.inquire .axelarConfig) fun _ => .orFail fun wallet _ => ?_
  exact .bind (.inquire _) fun _ => .sendCosmos sends _ _ _ _ _ _

theorem safe_startVerifierSet (existing : Option InitialSigners) :
    SafeStep lib honest session count pinned launches
      (startVerifierSet lib session scope existing) := by
  unfold startVerifierSet
  split
  · refine .bind safe_showCandidates fun _ => .bind safe_validateProverAdmin fun _ => ?_
    refine .currentState fun _ _ => .orFail fun mnemonic _ => ?_
    exact .bind (safe_submitMessages sends mnemonic) fun _ => .done ()
  · exact .done ()

theorem safe_initializeVerifiers : SafeStep lib honest session count pinned launches
      (initializeVerifiers lib session scope) := by
  refine .bind .currentJournal fun journal => ?_
  split
  · exact .done ()
  · refine .bind (.inquire _) fun _ => .bind safe_queryVerifierSet fun existing => ?_
    refine .bind (safe_startVerifierSet sends existing) fun _ => ?_
    refine .bind safe_queryVerifierSet fun _ => .orFail fun current _ => ?_
    exact safe_approveVerifierSet current

end Sending

section States

variable {lib : Platform} {honest : Prop} {files : Files} {plan : Plan}
variable {count : Nat} {pinned : Option Address} {launches : List Launched}

theorem safe_saveStep {change : Step → Except String Step}
    (saves : ∀ {step changed}, change step = .ok changed → SavesAddress step changed)
    (index : Nat) :
    Safe lib honest files plan count pinned launches (saveStep index change) := by
  refine .bind (.currentState fun state fits => ?_) fun _ => .saveState
  refine .orFail fun step found => .attemptValue fun changed changes => ?_
  exact .setState ⟨fits.hasPlan, fits.staged.set found (saves changes), fits.predicted⟩

theorem safe_rememberProposal (key : String) (id : Nat) :
    Safe lib honest files plan count pinned launches (rememberProposal key id) :=
  .currentState fun _ fits => .setState ⟨fits.hasPlan, fits.staged, fits.predicted⟩

theorem safe_runPredictAddress (isNext : StepName.predictGatewayAddress.place = count) :
    Safe lib honest files plan count pinned launches
      (runPredictAddress lib) := by
  refine .currentState fun state fits => .orFail fun _ _ => ?_
  refine .bind (.need fun _ _ _ => rfl) fun _ => .bind (.inquire _) fun _ => ?_
  refine .ensure fun _ => .ensure fun _ => .setState ⟨fits.hasPlan, fits.staged, ?_⟩
  intro late
  omega

theorem safe_runConfigEdit : Safe lib honest files plan count pinned launches runConfigEdit :=
  .currentState fun _ _ => .ensure fun _ => .ensure fun _ => .review _

theorem safe_pinPredictions (predicted : CosmosDeployment) :
    Safe lib honest (Opened lib honest) plan count pinned launches
      (pinPredictions predicted) := by
  refine .readJournal fun here world ready => ?_
  split
  · exact Safe.lastEnsure _ _ here world ready
  · exact keeps_amendment ready ⟨rfl, rfl, rfl, rfl, rfl, rfl, rfl⟩

theorem safe_runCosmosQuery : Safe lib honest files plan count pinned launches runCosmosQuery :=
  .bind (.inquire _) fun _ => .bind .currentJournal fun _ => .ensure fun _ => .review _

theorem safe_stepKey (step : StepName) :
    Safe lib honest files plan count pinned launches (stepKey step) :=
  .currentState fun _ _ => .lastAttemptValue _

end States

section Steps

variable {lib : Platform} {honest : Prop} {session : Session} {scope : Scope}
variable {count : Nat} {pinned : Option Address} {launches : List Launched}
variable (sends : Sends scope count launches)

include sends

theorem safe_runEvmCompat (privateKey : String) : SafeStep lib honest session count pinned launches
      (runEvmCompat lib session scope privateKey) := by
  refine .orFail fun _ _ => .bind (.inquire _) fun _ => .ensure fun _ => ?_
  refine .bind (.inquire _) fun _ => .bind (.sendEvm sends _ _) fun _ => ?_
  refine .orFail fun _ _ => .bind (.sendEvm sends _ _) fun _ => ?_
  exact .bind (.inquire _) fun _ => .lastEnsure _ _

theorem safe_deployContract (create2 : Bool) (deployer : Address) (bytecode : Bytes) :
    SafeStep lib honest session count pinned launches
      (deployContract lib session scope create2 deployer bytecode) := by
  unfold deployContract
  split
  · refine .bind (.inquire _) fun _ => .currentState fun _ _ => ?_
    refine .bind (.inquire _) fun _ => .bind (.sendEvm sends _ _) fun _ => ?_
    exact .done _
  · exact .bind (.sendEvm sends _ _) fun _ => .lastOrFail _ _

theorem safe_runEvmDeploy (create2 : Bool) (privateKey : String) (artifact : Artifact) :
    SafeStep lib honest session count pinned launches
      (runEvmDeploy lib session scope create2 privateKey artifact) := by
  refine .bind (.inquire _) fun _ => .orFail fun _ _ => ?_
  refine .bind (safe_deployContract sends _ _ _) fun _ => ?_
  refine .bind (.bind (.inquire _) fun _ => ?_) fun _ => .review _
  split
  · exact .bind (.inquire _) fun _ => .lastEnsure _ _
  · exact .done ()

theorem safe_submitStep (mnemonic proposalKey : String) :
    SafeStep lib honest session count pinned launches
      (submitStep lib session scope mnemonic proposalKey) := by
  refine .currentState fun _ _ => .bind (safe_submitMessages sends mnemonic) fun _ => ?_
  split
  · exact .orFail fun _ _ => safe_rememberProposal _ _
  · exact .done ()

theorem safe_runCosmosTx (proposalKey : String) : SafeStep lib honest session count pinned launches
      (runCosmosTx lib session scope proposalKey) := by
  refine .currentState fun _ _ => .attemptValue fun mnemonic _ => ?_
  split
  · refine .bind (.review _) fun _ => .bind (.inquire .predictedDeployment) fun _ => ?_
    exact .bind (safe_pinPredictions _) fun _ => safe_submitStep sends _ _
  · exact .bind (safe_submitMessages sends _) fun _ => .lastEnsure _ _
  · exact safe_submitStep sends _ _
  · exact .fail _

omit sends

theorem safe_directCheck (key : String) : SafeStep lib honest session count pinned launches
      (directCheck lib session key) := by
  refine .orFail fun step _ => .readAction fun here world ready => ?_
  refine Meets.orFail_bind (fun saved current => ?_) (fun _ => ready.atStage)
  refine keeps_check (fun _ => ?_) (fun _ => ready.atStage)
  refine keeps_need (fun _ _ _ => rfl) ?_ (fun _ _ => ready.atStage)
  intro _ _ _ _ config _
  cases saved with
  | evm _ => exact ready.atStage
  | cosmos saved =>
    exact (Safe.resumeCosmos ready current).seq
      fun _ _ _ still => still

theorem safe_validateIdentity (lcd key : String) (id : Nat) :
    SafeStep lib honest session count pinned launches
      (validateIdentity lib session lcd key id) := by
  refine .orFail fun step _ => .readAction fun here world ready => ?_
  split
  · rename_i saved current
    refine (Safe.resumeCosmos ready current).seq ?_
    intro response after moved still
    have rest : SafeStep lib honest session count pinned launches
          ((Program.ensure (lib.proposalId response = some id)
              (.failed "proposal ID does not match recorded submission")).bind fun _ =>
            (review "proposal payload").bind fun _ =>
              currentState.bind fun state =>
                Program.ensure (state.proposals.lookup key = some id)
                  (.failed "proposal identity mismatch")) :=
      .ensure fun _ => .bind (.review _) fun _ => .currentState fun _ _ => .lastEnsure _ _
    exact rest after moved still
  · exact ready.atStage

theorem safe_waitUntilVotingEnds (id rounds : Nat) :
    SafeStep lib honest session count pinned launches
      (waitUntilVotingEnds id rounds) := by
  induction rounds with
  | zero => exact .fail _
  | succ rounds ih =>
    refine .bind (.ask fun _ _ _ => rfl) fun _ => .bind (.inquire _) fun status => ?_
    split
    · exact ih
    · exact .done _

theorem safe_proposalOutcome (lcd key : String) (id : Nat) (status : ProposalStatus) :
    SafeStep lib honest session count pinned launches
      (proposalOutcome lib session lcd key id status) := by
  unfold proposalOutcome
  split
  · refine .bind (.ask fun _ _ _ => rfl) fun rounds => ?_
    refine .bind (safe_waitUntilVotingEnds id rounds) fun _ => ?_
    exact .bind (safe_validateIdentity lcd key id) fun _ => .done _
  · exact .done _

theorem safe_governanceCheck (key : String) : SafeStep lib honest session count pinned launches
      (governanceCheck lib session key) := by
  refine .currentState fun _ _ => ?_
  split
  · refine .orFail fun id _ => .bind (.inquire .axelarConfig) fun config => ?_
    refine .bind (.inquire _) fun status => ?_
    refine .bind (safe_validateIdentity config.lcd key id) fun _ => ?_
    refine .bind (safe_proposalOutcome config.lcd key id status) fun outcome => ?_
    split
    · exact .done ()
    · exact .fail _
    · exact .fail _
  · exact safe_directCheck key

theorem safe_governanceRecover (step : StepName) (proposalKey : String) :
    SafeStep lib honest session count pinned launches
      (governanceRecover lib session step proposalKey) := by
  refine .readAction fun here world ready => ?_
  split
  · rename_i saved current
    refine keeps_need (fun _ _ _ => rfl) ?_ (fun _ _ => ready.atStage)
    intro _ _ _ _ config _
    refine (Safe.resumeCosmos ready current).seq ?_
    intro response after moved still
    refine keeps_currentState fun _ _ => ?_
    split
    · refine Meets.orFail_bind (fun id _ => ?_) (fun _ => still.atStage)
      exact (safe_rememberProposal proposalKey id after _ still).andThen
        (fun _ _ _ ends => ends) fun _ _ _ ends => ends
    · exact keeps_check (fun _ => still) (fun _ => still.atStage)
  · exact ready

include sends

theorem safe_runRegisterOperators (privateKey : String) :
    SafeStep lib honest session count pinned launches
      (runRegisterOperators lib session scope privateKey) := by
  refine .orFail fun _ _ => .bind (.inquire _) fun _ => .currentState fun _ _ => ?_
  refine .each fun operator _ => .bind (.inquire _) fun already => ?_
  split
  · exact .done ()
  · exact .bind (.sendEvm sends _ _) fun _ => .bind (.inquire _) fun _ => .lastEnsure _ _

theorem safe_transferContract (contract : String) (address signer newOwner current : Address) :
    SafeStep lib honest session count pinned launches
      (transferContract lib session scope contract address signer newOwner current) := by
  unfold transferContract
  split
  · exact .done ()
  · exact .ensure fun _ => .bind (.sendEvm sends _ _) fun _ => .done ()

theorem safe_runTransferOwnership (contract : String) (newOwner : Address) (privateKey : String) :
    SafeStep lib honest session count pinned launches
      (runTransferOwnership lib session scope contract newOwner privateKey) := by
  refine .orFail fun _ _ => .bind (.inquire _) fun _ => .bind (.inquire _) fun _ => ?_
  refine .bind (safe_transferContract sends _ _ _ _ _) fun _ => ?_
  exact .bind (.inquire _) fun _ => .ensure fun _ => .review _

theorem safe_initializeProxy (proxy implementation owner : Address) :
    SafeStep lib honest session count pinned launches
      (initializeProxy lib session scope proxy implementation owner) := by
  refine .bind (.inquire _) fun stored => ?_
  split
  · exact .bind (.sendEvm sends _ _) fun _ => .lastEnsure _ _
  · exact .lastEnsure _ _

theorem safe_deployProxyAtomically (bytecode : Bytes) (implementation deployer : Address) :
    SafeStep lib honest session count pinned launches
      (deployProxyAtomically lib session scope bytecode implementation deployer) := by
  refine .bind (.inquire _) fun _ => .bind (.inquire _) fun _ => ?_
  refine .bind (.sendEvm sends _ _) fun _ => .orFail fun _ _ => ?_
  refine .bind (.inquire _) fun _ => .bind (.inquire _) fun _ => ?_
  exact .ensure fun _ => .done _

theorem safe_deployProxy (artifact : Artifact) (implementation deployer : Address) :
    SafeStep lib honest session count pinned launches
      (deployProxy lib session scope artifact implementation deployer) := by
  refine .bind (.inquire _) fun _ => .currentState fun _ _ => ?_
  split
  · exact safe_deployProxyAtomically sends _ _ _
  · refine .bind (.sendEvm sends _ _) fun _ => .orFail fun _ _ => ?_
    exact .bind (safe_initializeProxy sends _ _ _) fun _ => .done _

theorem safe_runDeployUpgradable (index : Nat)
    (privateKey : String) (implementationArtifact proxyArtifact : Artifact) :
    SafeStep lib honest session count pinned launches
      (runDeployUpgradable lib session scope index privateKey
        implementationArtifact proxyArtifact) := by
  refine .orFail fun _ _ => .bind (.inquire _) fun _ => .bind (.inquire _) fun _ => ?_
  refine .bind (.sendEvm sends _ _) fun _ => .ensure fun _ => .orFail fun _ _ => ?_
  refine .bind (safe_saveStep setImplementationAddress_saves index) fun _ => ?_
  refine .bind (safe_deployProxy sends _ _ _) fun _ => ?_
  exact .bind (safe_saveStep setProxyAddress_saves index) fun _ => .review _

omit sends in
theorem safe_prepareItsPlan (index : Nat) (step : Step) (deployer : Address) :
    SafeStep lib honest session count pinned launches
      (prepareItsPlan lib index step deployer) := by
  have recorded : SafeStep lib honest session count pinned launches
        (recordItsDeployer index step deployer) := by
    unfold recordItsDeployer
    split
    · exact .done ()
    · exact safe_saveStep setItsDeployer_saves index
  refine .bind recorded fun _ => .bind (.inquire _) fun _ => ?_
  refine .bind (.inquire _) fun _ => .bind (.inquire _) fun _ => ?_
  refine .bind (.inquire _) fun _ => .bind (.inquire _) fun _ => ?_
  refine .bind (.inquire _) fun _ => .currentState fun _ _ => ?_
  refine .orFail fun _ _ => .orFail fun _ _ => .bind (.inquire _) fun _ => ?_
  exact .bind (.inquire _) fun _ => .orFail fun _ _ => .done _

theorem safe_deployItsPart (index : Nat)
    (plan : ItsDeploymentPlan) (label : EvmLabel) (artifact : Artifact)
    (arguments : List AbiValue) :
    SafeStep lib honest session count pinned launches
      (deployItsPart lib session scope index plan label artifact arguments) := by
  refine .bind (.inquire _) fun _ => .bind (.inquire _) fun _ => ?_
  refine .bind (.sendEvm sends _ _) fun _ => ?_
  exact .bind (safe_saveStep setItsAddress_saves index) fun _ => .done _

theorem safe_deployViaCreate3 (plan : ItsDeploymentPlan)
    (label : EvmLabel) (artifact : Artifact) (arguments : List AbiValue) (salt : Digest)
    (predicted : Address) :
    SafeStep lib honest session count pinned launches
      (deployViaCreate3 lib session scope plan label artifact arguments salt predicted) :=
  .bind (.inquire _) fun _ => .bind (.sendEvm sends _ _) fun _ => .done _

theorem safe_deployItsHelpers (index : Nat) (plan : ItsDeploymentPlan) :
    SafeStep lib honest session count pinned launches
      (deployItsHelpers lib session scope index plan) := by
  have part := @safe_deployItsPart lib honest session scope count pinned launches
    sends index plan
  refine .bind (part _ _ _) fun _ => .bind (part _ _ _) fun _ => ?_
  refine .bind (part _ _ _) fun _ => .bind (part _ _ _) fun _ => ?_
  exact .bind (part _ _ _) fun _ => .done _

theorem safe_runDeployIts (index : Nat) (step : Step) (privateKey : String) :
    SafeStep lib honest session count pinned launches
      (runDeployIts lib session scope index step privateKey) := by
  refine .orFail fun _ _ => .bind (safe_prepareItsPlan index step _) fun plan => ?_
  refine .bind (safe_deployItsHelpers sends index plan) fun _ => ?_
  refine .bind (.bind (.inquire _) fun _ => ?_) fun _ => ?_
  · refine .bind (safe_deployViaCreate3 sends plan _ _ _ _ _) fun _ => ?_
    refine .bind (safe_saveStep setItsAddress_saves index) fun _ => ?_
    exact .bind (safe_deployViaCreate3 sends plan _ _ _ _ _) fun _ => .done ()
  · refine .bind (.bind (safe_deployItsPart sends index plan _ _ _) fun _ => ?_) fun _ => .review _
    exact .bind (safe_deployViaCreate3 sends plan _ _ _ _ _) fun _ => .done ()

theorem safe_executeStep (index : Nat) (step : Step)
    (ordinary : ∀ implementation, step.kind ≠ .deployGateway implementation)
    (prediction : step.kind = .predictAddress → StepName.predictGatewayAddress.place = count) :
    SafeStep lib honest session count pinned launches
      (executeStep lib session scope index step) := by
  unfold executeStep
  split
  · exact .bind (safe_stepKey _) fun _ => safe_runEvmCompat sends _
  · exact .bind (safe_stepKey _) fun _ => .orFail fun _ _ => safe_runEvmDeploy sends _ _ _
  · exact .bind (safe_stepKey _) fun _ => .orFail fun _ _ => safe_runEvmDeploy sends _ _ _
  · exact .bind (safe_stepKey _) fun _ => safe_runRegisterOperators sends _
  · exact .bind (safe_stepKey _) fun _ => safe_runTransferOwnership sends _ _ _
  · rename_i implementation kind
    exact (ordinary implementation kind).elim
  · rename_i kind
    exact safe_runPredictAddress (prediction kind)
  · exact safe_runConfigEdit
  · exact safe_runCosmosTx sends _
  · exact safe_governanceCheck _
  · exact safe_runCosmosQuery
  · exact safe_initializeVerifiers sends
  · exact .orFail fun _ _ => .orFail fun _ _ => .bind (safe_stepKey _) fun _ =>
      safe_runDeployUpgradable sends _ _ _ _
  · exact .bind (safe_stepKey _) fun _ => safe_runDeployIts sends _ _ _

end Steps

end Axe.Hardened

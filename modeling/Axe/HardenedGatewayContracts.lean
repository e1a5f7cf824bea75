import Axe.HardenedStepContracts

namespace Axe.Hardened

/-!
# Contracts of the gateway step

The implementation is recorded with the nonce from which the address of the
gateway was predicted.  The proxy is recorded with the next nonce of the same
account, and with the verifier set that is in the journal at that moment.
-/

/-- The journals are as they were. -/
def Frozen (here : Station) : Files := fun memory disk => memory = here.memory ∧ disk = here.disk

section Gateway

variable {lib : Platform} {honest : Prop} {session : Session} {scope : Scope}
variable {count : Nat} {pinned : Option Address} {launches : List Launched}
variable {here : Station} {world : Chains lib}

theorem keeps_frozen {Value : Type} {program : Deploy Value}
    (safe : ∀ files : Files, Safe lib honest files session.plan count pinned launches program)
    (ready : Ready.Open lib honest session.plan count pinned launches here) :
    Keeps lib honest session.plan (stagedPolicy lib session.plan) program
      (fun _ after _ =>
        Ready.Open lib honest session.plan count pinned launches after ∧ after.memory = here.memory)
      (fun _ after _ => after.At session.plan count pinned) here world := by
  have frozen : Ready (Frozen here) session.plan count pinned launches here :=
    ⟨ready.atStage, ⟨rfl, rfl⟩, ready.launches⟩
  refine (safe (Frozen here) here world frozen).mono ?_
  intro _ after _ still
  obtain ⟨memory, disk⟩ := still.files
  refine ⟨⟨still.atStage, ?_, still.launches⟩, memory⟩
  rw [memory, disk]
  exact ready.files

variable {onFail : Stop → Station → Chains lib → Prop}

theorem keeps_initialSet (fails : ∀ stop moved, onFail stop here moved) :
    Keeps lib honest session.plan (stagedPolicy lib session.plan)
      (initialSet lib)
      (fun initial after _ => after = here ∧ here.memory.initialSigners = some initial)
      onFail here world := by
  refine keeps_currentJournal fun _ _ => ?_
  split
  · rename_i initial approved
    exact Meets.ensure_bind (fun _ => ⟨rfl, approved⟩) (fun _ => fails _ _)
  · exact fails _ _

structure PinnedNonce (lib : Platform) (here : Station) (sender : Address)
    (nonce : U64) : Prop where
  bound : nonce.toNat + 1 < 2 ^ 64
  predicted : here.context.predictedGatewayAddress = some (lib.createAddress sender (nonce + 1))
  recorded : ∀ transaction, here.memory.get gatewayImplementationKey = some transaction →
      ∃ tx, transaction = .evm tx ∧ tx.sender = sender ∧ tx.nonce = nonce

variable {sender : Address} {nonce : U64}

theorem validateGatewayPrediction_ok {expected : Address}
    (valid : validateGatewayPrediction lib sender nonce expected = .ok ()) :
    nonce.toNat + 1 < 2 ^ 64 ∧ lib.createAddress sender (nonce + 1) = expected := by
  unfold validateGatewayPrediction at valid
  split at valid
  · rename_i bound
    split at valid
    · rename_i same
      exact ⟨bound, same⟩
    · cases valid
  · cases valid

theorem keeps_implementationNonce (fails : ∀ stop moved, onFail stop here moved) :
    Keeps lib honest session.plan (stagedPolicy lib session.plan)
      (implementationNonce sender)
      (fun nonce after _ => after = here ∧
        ∀ transaction, here.memory.get gatewayImplementationKey = some transaction →
          ∃ tx, transaction = .evm tx ∧ tx.sender = sender ∧ tx.nonce = nonce)
      onFail here world := by
  refine keeps_getAction fun _ _ => ?_
  split
  · rename_i tx current
    refine Meets.ensure_bind (fun same => ⟨rfl, ?_⟩) (fun _ => fails _ _)
    intro other isOther
    cases current.symm.trans isOther
    exact ⟨tx, rfl, same.symm, rfl⟩
  · exact fails _ _
  · rename_i absent
    refine Meets.bind (Meets.read (fun _ _ _ => rfl) (fun _ _ => .stutter) ?_)
    intro moved _ reply _
    refine Meets.orFail (fun nonce _ => ⟨rfl, ?_⟩) (fun _ => fails _ _)
    intro tx isTx
    cases absent.symm.trans isTx

theorem keeps_gatewayNonce (fails : ∀ stop moved, onFail stop here moved) :
    Keeps lib honest session.plan (stagedPolicy lib session.plan)
      (gatewayNonce lib sender)
      (fun nonce after _ => after = here ∧ PinnedNonce lib here sender nonce)
      onFail here world := by
  refine (keeps_initialSet fails).seq ?_
  rintro _ after _ ⟨rfl, _⟩
  refine (keeps_implementationNonce fails).seq ?_
  rintro nonce after _ ⟨rfl, recorded⟩
  refine keeps_currentState fun _ _ => ?_
  refine Meets.orFail_bind (fun expected found => ?_) (fun _ => fails _ _)
  refine keeps_check (fun valid => ?_) (fun _ => fails _ _)
  obtain ⟨bound, same⟩ := validateGatewayPrediction_ok valid
  exact ⟨rfl, bound, same ▸ found, recorded⟩

theorem EvmMade.filled {signer : Address} {request : TransactionRequest} {tx : EvmTransaction}
    {envelope : Envelope} (made : EvmMade lib tx envelope)
    (fills : Fills lib signer request envelope) :
    tx.sender = signer ∧ ∀ nonce ∈ request.nonce, tx.nonce = nonce := by
  refine ⟨Option.some.inj (made.sender.symm.trans fills.1), ?_⟩
  intro nonce isNonce
  rw [← made.nonce]
  exact fills.2.1 nonce isNonce

structure SendsGateway (lib : Platform) (scope : Scope) (count : Nat)
    (launches : List Launched) (deployer : Address) : Prop where
  isGateway : scope.step = .axelarGateway
  next : scope.step.place = count
  cleared : Cleared count launches
  signer : lib.evmAddress scope.evmKey = some deployer

variable {deployer : Address}

theorem SendsGateway.afterPrediction (sends : SendsGateway lib scope count launches deployer) :
    StepName.predictGatewayAddress.place < count := by
  have place : StepName.predictGatewayAddress.place < StepName.axelarGateway.place := by
    decide +kernel
  rw [← sends.next, sends.isGateway]
  exact place

def HasImplementation (journal : Journal) (sender : Address) (nonce : U64) : Prop :=
  ∃ tx, journal.get gatewayImplementationKey = some (.evm tx) ∧
    tx.sender = sender ∧ tx.nonce = nonce

variable {artifact : Artifact}

theorem keeps_deployGatewayImplementation {domainSeparator : Digest}
    (sends : SendsGateway lib scope count launches deployer)
    (ready : Ready.Open lib honest session.plan count pinned launches here)
    (pin : PinnedNonce lib here deployer nonce) :
    Keeps lib honest session.plan (stagedPolicy lib session.plan)
      (deployGatewayImplementation lib session scope artifact domainSeparator nonce)
      (fun _ after _ =>
        Ready.Open lib honest session.plan count pinned launches after ∧
          HasImplementation after.memory deployer nonce)
      (fun _ after _ => after.At session.plan count pinned) here world := by
  have isKey : ActionKey.evm scope.step .gatewayImplementation =
      gatewayImplementationKey := by
    rw [sends.isGateway]
    rfl
  refine keeps_need (fun _ _ _ => rfl) ?_ (fun _ _ => ready.atStage)
  intro _ _ _ _ bytecode _
  refine keeps_currentState fun _ _ => ?_
  refine (keeps_ready (keeps_sendEvm ready.synced (fun trusted => (ready.sound trusted).memory) ?_)
    (fun _ _ _ ends => ends.1.synced) ready).seq ?_
  · intro signer tx envelope isSigner made fills
    cases isSigner.symm.trans sends.signer
    obtain ⟨sender, number⟩ := made.filled fills
    have isNonce : tx.nonce = nonce := number nonce rfl
    obtain ⟨saved, isSaved, fits⟩ := ready.atStage.saved
    refine ⟨saved, count, isSaved, fits.staged, sends.next, ready.launches ▸ sends.cleared, ?_, ?_⟩
    · intro _
      refine ⟨tx, rfl, by rw [isNonce]; exact pin.bound, ?_⟩
      rw [fits.predicted sends.afterPrediction,
        ← ready.atStage.context.predicted sends.afterPrediction, pin.predicted, sender,
        isNonce]
    · intro isProxy
      rw [isKey] at isProxy
      cases isProxy
  · rintro receipt after moved ⟨still, ⟨_, tx, signer, current, isSigner, sent⟩, _⟩
    cases isSigner.symm.trans sends.signer
    rw [isKey] at current sent
    have has : HasImplementation after.memory deployer nonce := by
      refine ⟨tx, current, ?_⟩
      cases before : here.memory.get gatewayImplementationKey with
      | none =>
        obtain ⟨sender, number⟩ := sent.fresh before
        exact ⟨sender, number nonce rfl⟩
      | some old =>
        obtain ⟨first, rfl, oldSender, oldNumber⟩ := pin.recorded old before
        obtain ⟨sender, number⟩ := sent.kept first before
        exact ⟨sender.trans oldSender, number.trans oldNumber⟩
    refine Meets.orFail_bind (fun address _ => ?_) (fun _ => still.atStage)
    refine keeps_need (fun _ _ _ => rfl) ?_ (fun _ _ => still.atStage)
    intro _ _ _ _ _ _
    exact ⟨still, has⟩

variable {initial : InitialSigners}

theorem keeps_approveVerifierSet
    (ready : Ready.Open lib honest session.plan count pinned launches here) :
    Keeps lib honest session.plan (stagedPolicy lib session.plan)
      (approveVerifierSet initial)
      (fun _ after _ =>
        Ready.Open lib honest session.plan count pinned launches after ∧
          ∀ key, after.memory.get key = here.memory.get key)
      (fun _ after _ => after.At session.plan count pinned) here world := by
  have approves : Keeps lib honest session.plan (stagedPolicy lib session.plan).quiet
        (approveVerifierSet initial)
        (fun _ after _ => after.Synced ∧ ∀ key, after.memory.get key = here.memory.get key)
        (fun _ _ _ => True) here world := by
    refine keeps_getAction fun _ _ => ?_
    refine Meets.ensure_bind (fun _ => ?_) (fun _ => trivial)
    refine keeps_askOperator fun _ _ approved => ?_
    unfold saveDecision
    split
    · refine keeps_currentJournal fun _ _ => ?_
      refine Meets.ensure_bind (fun absent => ?_) (fun _ => trivial)
      exact keeps_writeJournal
        (fun _ outcome _ => .commit _ outcome ready.synced (.approve initial absent))
        (fun _ _ => ⟨Station.synced_written here _, fun _ => rfl⟩)
        (fun _ _ _ _ => trivial)
    · trivial
  exact (keeps_ready approves (fun _ _ _ ends => ends.1) ready).weaken
    (fun _ _ _ ends => ⟨ends.1, ends.2.1.2⟩) (fun _ _ _ ends => ends)

theorem keeps_refreshBeforeGateway
    (ready : Ready.Open lib honest session.plan count pinned launches here) :
    Keeps lib honest session.plan (stagedPolicy lib session.plan)
      (refreshBeforeGateway lib)
      (fun _ after _ =>
        Ready.Open lib honest session.plan count pinned launches after ∧
          ∀ key, after.memory.get key = here.memory.get key)
      (fun _ after _ => after.At session.plan count pinned) here world := by
  refine keeps_getAction fun _ _ => ?_
  split
  · exact ⟨ready, fun _ => rfl⟩
  · refine (keeps_initialSet fun _ _ => ready.atStage).seq ?_
    rintro first after _ ⟨rfl, _⟩
    refine (keeps_frozen (fun _ => safe_queryVerifierSet) ready).seq ?_
    rintro found now _ ⟨still, same⟩
    refine Meets.orFail_bind (fun current _ => ?_) (fun _ => still.atStage)
    split
    · exact ⟨still, fun _ => by rw [same]⟩
    · exact (keeps_approveVerifierSet still).weaken
        (fun _ _ _ ends => ⟨ends.1, fun key => (ends.2 key).trans (by rw [same])⟩)
        (fun _ _ _ ends => ends)

theorem keeps_deployGatewayProxy {implementation : Address}
    (sends : SendsGateway lib scope count launches deployer)
    (ready : Ready.Open lib honest session.plan count pinned launches here)
    (has : HasImplementation here.memory deployer nonce)
    (approved : here.memory.initialSigners = some initial) :
    Keeps lib honest session.plan (stagedPolicy lib session.plan)
      (deployGatewayProxy lib session scope implementation deployer
        (encodeGatewaySetupParams lib session.plan.gatewayOperator initial.signers
          initial.threshold initial.nonce)
        artifact (nonce + 1))
      (fun _ after _ =>
        Ready.Open lib honest session.plan count pinned launches after)
      (fun _ after _ => after.At session.plan count pinned) here world := by
  have isKey : ActionKey.evm scope.step .gatewayProxy = gatewayProxyKey := by
    rw [sends.isGateway]
    rfl
  refine keeps_need (fun _ _ _ => rfl) ?_ (fun _ _ => ready.atStage)
  intro _ _ _ _ bytecode _
  refine (keeps_ready (keeps_sendEvm ready.synced (fun trusted => (ready.sound trusted).memory) ?_)
    (fun _ _ _ ends => ends.1.synced) ready).seq ?_
  · intro signer tx envelope isSigner made fills
    cases isSigner.symm.trans sends.signer
    obtain ⟨sender, number⟩ := made.filled fills
    obtain ⟨first, current, firstSender, firstNonce⟩ := has
    obtain ⟨saved, isSaved, fits⟩ := ready.atStage.saved
    refine ⟨saved, count, isSaved, fits.staged, sends.next, ready.launches ▸ sends.cleared, ?_, ?_⟩
    · intro isImplementation
      rw [isKey] at isImplementation
      cases isImplementation
    · intro _
      refine ⟨tx, first, initial, envelope, rfl, current, sender.trans firstSender.symm,
        ?_, approved, ?_, ?_, bytecode, implementation, ?_⟩
      · rw [firstNonce]
        exact number _ rfl
      · rw [made.raw]
        exact lib.decodeEnvelope_encode envelope
      · exact fills.2.2.2.2.1 _ rfl
      · rw [sender]
        exact fills.2.2.2.2.2.2.1
  · rintro receipt after moved ⟨still, _⟩
    refine Meets.ensure_bind (fun _ => ?_) (fun _ => still.atStage)
    exact Meets.orFail (fun _ _ => still) (fun _ => still.atStage)

theorem keeps_runDeployGateway {index : Nat} {implementationArtifact proxyArtifact : Artifact}
    (isGateway : scope.step = .axelarGateway) (next : scope.step.place = count)
    (cleared : Cleared count launches)
    (ready : Ready.Open lib honest session.plan count pinned launches here) :
    Keeps lib honest session.plan (stagedPolicy lib session.plan)
      (runDeployGateway lib session scope index scope.evmKey implementationArtifact proxyArtifact)
      (fun _ after _ =>
        Ready.Open lib honest session.plan count pinned launches after)
      (fun _ after _ => after.At session.plan count pinned) here world := by
  refine Meets.orFail_bind (fun deployer signer => ?_) (fun _ => ready.atStage)
  have sends : SendsGateway lib scope count launches deployer := ⟨isGateway, next, cleared, signer⟩
  refine keeps_need (fun _ _ _ => rfl) ?_ (fun _ _ => ready.atStage)
  intro _ _ _ _ domainSeparator _
  refine (keeps_gatewayNonce fun _ _ => ready.atStage).seq ?_
  rintro nonce after _ ⟨rfl, pin⟩
  refine (keeps_deployGatewayImplementation sends ready pin).seq ?_
  rintro implementation created _ ⟨readyCreated, has⟩
  refine (keeps_frozen (fun _ => safe_saveStep setImplementationAddress_saves index)
    readyCreated).seq ?_
  rintro _ saved _ ⟨readySaved, sameMemory⟩
  refine (keeps_refreshBeforeGateway readySaved).seq ?_
  rintro _ refreshed _ ⟨readyRefreshed, sameActions⟩
  have still : HasImplementation refreshed.memory deployer nonce := by
    obtain ⟨tx, current, facts⟩ := has
    exact ⟨tx, (sameActions _).trans (sameMemory ▸ current), facts⟩
  refine (keeps_initialSet fun _ _ => readyRefreshed.atStage).seq ?_
  rintro initial now _ ⟨rfl, approved⟩
  refine keeps_currentState fun _ _ => ?_
  refine Meets.orFail_bind (fun plan hasPlan => ?_) (fun _ => readyRefreshed.atStage)
  cases hasPlan.symm.trans readyRefreshed.atStage.context.hasPlan
  refine (keeps_deployGatewayProxy sends readyRefreshed still approved).seq ?_
  intro proxy last moved readyLast
  have rest : SafeStep lib honest session count pinned launches
        ((Program.ensure (some proxy = now.context.predictedGatewayAddress) (.failed
              "gateway address differs from the pinned Cosmos configuration")).bind
          fun _ => review "contract configuration") :=
    .ensure fun _ => .review _
  exact rest last moved readyLast

theorem keeps_executeStep {index : Nat} {step : Step} (regular : step.bare.Regular)
    (isNext : step.name.place = count) (isStep : scope.step = step.name)
    (signer : signerFor here.context step.name = .ok scope.evmKey)
    (cleared : Cleared count launches)
    (ready : Ready.Open lib honest session.plan count pinned launches here) :
    Keeps lib honest session.plan (stagedPolicy lib session.plan)
      (executeStep lib session scope index step)
      (fun _ after _ =>
        Ready.Open lib honest session.plan count pinned launches after)
      (fun _ after _ => after.At session.plan count pinned) here world := by
  have next : scope.step.place = count := isStep ▸ isNext
  by_cases isGateway : step.name = .axelarGateway
  · have bareKind : step.kind.bare = .deployGateway none := regular.gateway.mpr isGateway
    obtain ⟨implementation, kind⟩ :
        ∃ implementation, step.kind = .deployGateway implementation := by
      cases kind : step.kind <;> simp [kind, StepKind.bare] at bareKind ⊢
    unfold executeStep
    rw [kind]
    refine Meets.orFail_bind (fun proxy _ => ?_) (fun _ => ready.atStage)
    -- The key of the step is the one of the scope: the state did not change.
    refine Meets.bind (keeps_currentState fun _ _ => ?_)
    have sameKey : resolveEvmKey here.context step.name = .ok scope.evmKey := by
      rw [isGateway] at signer ⊢
      exact signer
    rw [sameKey]
    refine Meets.orFail_bind (fun artifact _ => ?_) (fun _ => ready.atStage)
    exact keeps_runDeployGateway (isStep.trans isGateway) next cleared ready
  · have sends : Sends scope count launches :=
      ⟨next, cleared, fun same => isGateway (isStep.symm.trans same)⟩
    refine safe_executeStep sends index step ?_ ?_ here world ready
    · intro implementation kind
      exact isGateway (regular.gateway.mp (by simp [Step.bare, kind, StepKind.bare]))
    · intro kind
      have name : step.name = .predictGatewayAddress :=
        regular.prediction (by simp [Step.bare, kind, StepKind.bare])
      rw [← next, isStep, name]

end Gateway

end Axe.Hardened

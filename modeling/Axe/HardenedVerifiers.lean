import Axe.HardenedCosmos
import Axe.HardenedEvm

namespace Axe.Hardened

/-!
# The verifier set and the gateway

The gateway is created with a verifier set that the operator approved.  The set
is kept in the journal; it can be replaced by another approved one until the
gateway proxy is signed.  The two gateway transactions use the nonces from which
the address of the gateway was predicted.
-/

def gatewayImplementationKey : ActionKey := .evm .axelarGateway .gatewayImplementation

def gatewayProxyKey : ActionKey := .evm .axelarGateway .gatewayProxy

/-- A verifier set in the argument format of the gateway. -/
def weightedSigners (signers : List (Address × U128)) (threshold : U128)
    (nonce : Digest) : AbiValue :=
  .tuple
    [ .list (signers.map fun signer =>
        .tuple [.address signer.1, .uint (signer.2.setWidth 256)]),
      .uint (threshold.setWidth 256),
      .word nonce ]

/-- The limits of the service are consistent. -/
def validateLimits (service : VerifierService) : Except String Unit :=
  if 0 < service.minNumVerifiers then
    if service.maxNumVerifiers.all fun max => service.minNumVerifiers ≤ max then
      .ok ()
    else
      .error "invalid service verifier limits"
  else
    .error "service minimum must be positive"

def validateCount (count : Nat) (service : VerifierService) : Except String Unit :=
  match validateLimits service with
  | .error message => .error message
  | .ok () =>
    if service.minNumVerifiers ≤ count ∧ service.maxNumVerifiers.all fun max => count ≤ max then
      .ok ()
    else
      .error "verifier count is outside service limits"

def ascending : List Address → Bool
  | [] => true
  | [_] => true
  | first :: second :: rest => first < second && ascending (second :: rest)

def sameSet (first second : InitialSigners) : Bool :=
  first.hash = second.hash && first.setId = second.setId &&
    first.identities.all (fun identity => second.identities.contains identity) &&
    second.identities.all (fun identity => first.identities.contains identity)

variable (lib : Platform)

/-- The hash of a set of signers, as the gateway computes it. -/
def signerHash (signers : List (Address × U128)) (threshold : U128) (nonce : Digest) : Digest :=
  lib.keccak256 (lib.abiEncode [weightedSigners signers threshold nonce])

def snapshotSigners (identities : List String) (signers : List (Address × U128)) (threshold : U128)
    (nonce : Digest) (setId : String) : InitialSigners where
  identities := identities
  signers := signers
  threshold := threshold
  nonce := nonce
  setId := setId
  hash := signerHash lib signers threshold nonce

def setMembers : Nat → List ProverSigner → Except String (Nat × List (Address × String × U128))
  | total, [] => .ok (total, [])
  | total, signer :: rest =>
    if lib.accountPrefix signer.identity = some "axelar" ∧ signer.address = signer.identity then
      match signer.weight.value with
      | none => .error "invalid digit found in string"
      | some weight =>
        if 0 < weight.toNat then
          if total + weight.toNat < 2 ^ 128 then
            match lib.signerAddress signer.ecdsa with
            | none => .error "invalid signer key"
            | some key =>
              (setMembers (total + weight.toNat) rest).map fun found =>
                (found.1, (key, signer.identity, weight) :: found.2)
          else
            .error "signer weight overflow"
        else
          .error "zero signer weight"
    else
      .error "prover signer identity mismatch"

/-- The weight that a fraction of the total asks for, rounded up. -/
def requiredWeight (total : Nat) (fraction : Nat × Nat) : Except String Nat :=
  if 0 < fraction.1 ∧ fraction.1 ≤ fraction.2 then
    if total * fraction.1 < 2 ^ 128 then
      .ok ((total * fraction.1 + fraction.2 - 1) / fraction.2)
    else
      .error "threshold overflow"
  else
    .error "invalid signing threshold"

/-- The set of the prover as the signers of the gateway, checked. -/
def validateVerifierSet (set : ProverSet) (service : VerifierService)
    (fraction : Nat × Nat) : Except String InitialSigners := do
  validateCount set.signers.length service
  if set.id = "" then
    .error "missing prover verifier set ID"
  else do
    let (total, found) ← setMembers lib 0 set.signers
    let members := found.mergeSort fun first second => first.1 ≤ second.1
    if ascending (members.map Prod.fst) then do
      let expected ← requiredWeight total fraction
      match set.threshold.value with
      | none => .error "invalid digit found in string"
      | some threshold =>
        if 0 < threshold.toNat ∧ threshold.toNat = expected then
          .ok
            (snapshotSigners lib (members.map fun member => member.2.1)
              (members.map fun member => (member.1, member.2.2))
              threshold
              (word256.encode (set.createdAt.setWidth 256))
              set.id)
        else
          .error "prover signing threshold differs from deployment plan"
    else
      .error "duplicate signer keys"

def queryVerifierSet : Deploy (Option InitialSigners) := do
  let _ ← inquire .axelarConfig
  let _ ← inquire (.axelarField "MultisigProver")
  let found : Option ProverSet ← inquire .proverSet
  match found with
  | none => .done none
  | some set => do
    let _ ← inquire (.axelarField "ServiceRegistry")
    let service : VerifierService ← inquire .verifierService
    let state ← currentState
    let plan ← Program.orFail state.hardenedPlan (.failed "missing deployment plan")
    let initial ←
      attemptValue (validateVerifierSet lib set service plan.signingThreshold)
    .done (some initial)

def validateEligible (identities : List String) : Bool :=
  identities.all (fun identity => lib.accountPrefix identity = some "axelar") &&
    decide identities.Nodup

def showCandidates : Deploy Unit := do
  let _ ← inquire .axelarConfig
  let _ ← inquire (.axelarField "ServiceRegistry")
  let service : VerifierService ← inquire .verifierService
  let active : Option (List String) ← inquire .activeVerifiers
  match active with
  | none => do
    review "verifier handoff"
    .fail
      (.paused
        "Waiting for verifier registrations. Complete the rollout and registration steps above, then resume with --activate. No verifier initialization transaction was submitted.")
  | some identities => do
    Program.ensure (validateEligible lib identities = true)
      (.failed "invalid or duplicate eligible identity")
    check (validateCount identities.length service)

def saveDecision (initial : InitialSigners) (approved : Bool) : Deploy Unit :=
  if approved then do
    let journal ← currentJournal
    Program.ensure (journal.get gatewayProxyKey = none)
      (.failed "gateway proxy already journaled; its initial signer set cannot be replaced")
    writeJournal { journal with initialSigners := some initial }
  else
    .fail
      (.paused
        "Initial verifier set declined. The prover initialization remains recorded; no gateway proxy will be sent. Review the verifier identities with their operators, then run the continue command to review the set again.")

/-- Have the operator accept the set, and record it. -/
def approveVerifierSet (initial : InitialSigners) : Deploy Unit := do
  let recorded ← getAction gatewayProxyKey
  Program.ensure (recorded = none)
    (.failed "gateway proxy already journaled; its initial signer set cannot be replaced")
  let approved ←
    askOperator "Approve this initial verifier set for gateway deployment?"
  saveDecision initial approved

def deriveAxelarWallet (mnemonic : String) : Option (Wallet lib) :=
  (lib.deriveKey mnemonic).map fun key => ⟨key, lib.keyAccount key, rfl⟩

def nonblank (text : Option String) : Option String :=
  text.filter fun text => !text.toList.all Char.isWhitespace

def selectMnemonic (admin : Option String) (expected : String) : Except String String :=
  match nonblank admin with
  | none =>
    .error
      ("prover admin key required before deployment: expected " ++ expected ++
        ". Set MULTISIG_PROVER_MNEMONIC explicitly; MNEMONIC is only the proposer")
  | some mnemonic =>
    match deriveAxelarWallet lib mnemonic with
    | none =>
      .error
        "invalid MULTISIG_PROVER_MNEMONIC: cannot derive the prover admin address"
    | some wallet =>
      if wallet.address = expected then
        .ok mnemonic
      else
        .error
          ("prover admin key required before deployment: expected " ++ expected ++
            ", but MULTISIG_PROVER_MNEMONIC derives " ++ wallet.address ++
            ". Set MULTISIG_PROVER_MNEMONIC to the mnemonic for " ++ expected ++
            " and rerun `axe deploy run`. A mnemonic cannot be derived from an address")

/-- Select the mnemonic that belongs to the admin of the prover. -/
def validateProverAdmin : Deploy Unit := do
  let state ← currentState
  Program.ensure (state.hardenedPlan.isSome = true) (.failed "missing deployment plan")
  let expected : String ← inquire .proverAdmin
  let mnemonic ←
    attemptValue (selectMnemonic lib state.credentials.adminMnemonic expected)
  setState
    { state with
      credentials := { state.credentials with adminMnemonic := some mnemonic } }

def submitMessages (session : Session) (scope : Scope) (mnemonic : String) : Deploy TxResponse := do
  let config : AxelarConfig ← inquire .axelarConfig
  let wallet ←
    Program.orFail (deriveAxelarWallet lib mnemonic)
      (.failed "cannot derive the Axelar wallet")
  let messages : List AnyMessage ← inquire (.stepMessages scope.step wallet.address)
  sendCosmos lib session scope wallet config.lcd config.chainId config.feeDenom
    config.gasPrice messages

def startVerifierSet (session : Session) (scope : Scope)
    (existing : Option InitialSigners) : Deploy Unit :=
  if existing.isNone then do
    showCandidates lib
    validateProverAdmin lib
    let state ← currentState
    let mnemonic ←
      Program.orFail state.credentials.adminMnemonic
        (.failed "missing prover admin credential")
    let _ ← submitMessages lib session scope mnemonic
    .done ()
  else
    .done ()

/-- Give the prover its first set, and have it approved. -/
def initializeVerifiers (session : Session) (scope : Scope) : Deploy Unit := do
  let journal ← currentJournal
  if journal.initialSigners.isSome then
    .done ()
  else do
    let _ ← inquire (.axelarField "MultisigProver")
    let existing ← queryVerifierSet lib
    startVerifierSet lib session scope existing
    let found ← queryVerifierSet lib
    let current ←
      Program.orFail found
        (.paused "prover set is not available yet; resume with --activate")
    approveVerifierSet current

def initialSet : Deploy InitialSigners := do
  let journal ← currentJournal
  match journal.initialSigners with
  | some initial => do
    Program.ensure
      (initial.hash = signerHash lib initial.signers initial.threshold initial.nonce)
      (.failed "initial signer snapshot hash mismatch")
    .done initial
  | none =>
    .fail
      (.paused
        "initial verifier set has not been approved; resume at the verifier checkpoint with --activate")

def validateGatewayPrediction (sender : Address) (nonce : U64)
    (expected : Address) : Except String Unit :=
  if nonce.toNat + 1 < 2 ^ 64 then
    if lib.createAddress sender (nonce + 1) = expected then
      .ok ()
    else
      .error
        "gateway deployer nonce changed since address prediction; stop and reconcile the Cosmos configuration before sending anything"
  else
    .error "gateway nonce overflow"

def implementationNonce (sender : Address) : Deploy U64 := do
  let recorded ← getAction gatewayImplementationKey
  match recorded with
  | some (.evm tx) => do
    Program.ensure (sender = tx.sender) (.failed "gateway deployer differs from journal")
    .done tx.nonce
  | some (.cosmos _) => .fail (.failed "gateway implementation journal type mismatch")
  | none => need (.transactionCount sender) id unavailable

/-- The nonce to start from, checked against the predicted address. -/
def gatewayNonce (sender : Address) : Deploy U64 := do
  let _ ← initialSet lib
  let nonce ← implementationNonce sender
  let state ← currentState
  let expected ←
    Program.orFail state.predictedGatewayAddress
      (.failed "missing pinned gateway address")
  check (validateGatewayPrediction lib sender nonce expected)
  .done nonce

/-- Before the proxy is signed, a changed prover set is approved again. -/
def refreshBeforeGateway : Deploy Unit := do
  let recorded ← getAction gatewayProxyKey
  if recorded.isSome then
    .done ()
  else do
    let pinned ← initialSet lib
    let found ← queryVerifierSet lib
    let current ←
      Program.orFail found (.paused "prover set disappeared before gateway creation")
    if sameSet pinned current then .done () else approveVerifierSet current

def observationBlock : Deploy BlockHeader := do
  let journal ← currentJournal
  let policy := journal.evmConfirmations
  let found : Option BlockHeader ← need (.blockByNumber policy.blockTag) id unavailable
  let head ← Program.orFail found (.failed "EVM confirmation block unavailable")
  match policy with
  | .finalized => .done head
  | .confirmations count =>
    if count ≤ 1 then
      .done head
    else do
      Program.ensure (count - 1 ≤ head.number)
        (.failed "chain has not reached the requested confirmation depth")
      let deep : Option BlockHeader ←
        need (.blockByNumber (.number (head.number - (count - 1)))) id unavailable
      Program.orFail deep (.failed "EVM confirmation block unavailable")

def lastRotation (rotations : Map U64 Digest) : Option (U64 × Digest) :=
  rotations.entries.foldl
    (fun latest entry =>
      match latest with
      | none => some (entry.1, entry.2)
      | some found => if found.1 < entry.1 then some (entry.1, entry.2) else latest)
    none

def epochHash (address : Address) (block : Digest) (epoch : U256) : Deploy Digest :=
  inquire (.hashView ⟨address, "signersHashByEpoch(uint256)", [.uint epoch], some block⟩)

/-- The last recorded rotation is still on chain. -/
def checkRotationHistory (address : Address) (block : Digest) (epoch : U256)
    (rotations : Map U64 Digest) : Deploy Unit :=
  match lastRotation rotations with
  | none => .done ()
  | some (previous, previousHash) => do
    Program.ensure (previous.setWidth 256 ≤ epoch)
      (.failed "gateway rotation history changed")
    let found ← epochHash address block (previous.setWidth 256)
    Program.ensure (found = previousHash) (.failed "gateway rotation history changed")

def acceptRotation (address : Address) (block : Digest) (epoch : U256) : Deploy Unit := do
  let current ← epochHash address block epoch
  let journal ← currentJournal
  checkRotationHistory address block epoch journal.rotations
  Program.ensure (epoch.toNat < 2 ^ 64) (.failed "Uint conversion error")
  if journal.rotations.lookup (epoch.setWidth 64) = some current then
    .done ()
  else do
    let accepted ←
      askOperator "Accept this gateway rotation for subsequent deployment checks?"
    if accepted then do
      let journal ← currentJournal
      writeJournal
        { journal with rotations := journal.rotations.insert (epoch.setWidth 64) current }
    else
      .fail (.paused "gateway rotation not approved")

def reviewRotation (address : Address) (block : Digest) (epoch : U256) : Deploy Unit :=
  if 1 < epoch then acceptRotation address block epoch else .done ()

/-- The gateway on chain is the one that was set up. -/
def verifyGateway (session : Session) : Deploy Unit := do
  let state ← currentState
  let address : Address ← inquire (.contractAddress "AxelarGateway")
  Program.ensure (some address = state.predictedGatewayAddress)
    (.failed "gateway address mismatch")
  let block ← observationBlock
  let delay : U256 ←
    inquire (.wordView ⟨address, "minimumRotationDelay()", [], some block.hash⟩)
  Program.ensure (delay.toNat = state.env.gatewayRotationDelaySeconds)
    (.failed "gateway minimum signer rotation delay differs from the network preset")
  let initial ← initialSet lib
  let epoch : U256 ← inquire (.wordView ⟨address, "epoch()", [], some block.hash⟩)
  let first ← epochHash address block.hash 1
  Program.ensure (1 ≤ epoch ∧ first = initial.hash)
    (.failed "gateway initial signer hash differs from the recorded deployment")
  reviewRotation address block.hash epoch
  let operator : Address ←
    inquire (.addressView ⟨address, "operator()", [], some block.hash⟩)
  Program.ensure (operator = session.plan.gatewayOperator)
    (.failed "gateway operator mismatch")

def verifyOwner (expected : String × Address) : Deploy Unit := do
  let address : Address ← inquire (.contractAddress expected.1)
  let owner : Address ← inquire (.addressView ⟨address, "owner()", [], none⟩)
  Program.ensure (owner = expected.2) (.failed (expected.1 ++ ": final owner mismatch"))

/-- Check the gateway and all owners at the end. -/
def verifyCompleted (session : Session) : Deploy Unit := do
  verifyGateway lib session
  Program.each verifyOwner
    [ ("AxelarGateway", session.plan.gatewayOwner), ("Operators", session.plan.operatorsOwner),
      ("AxelarGasService", session.plan.gasServiceOwner),
      ("InterchainTokenService", session.plan.itsOwner),
      ("InterchainTokenFactory", session.plan.factoryOwner) ]

end Axe.Hardened

import Axe.EvmIntent
import Axe.HardenedSession

namespace Axe.Hardened

/-!
# EVM transactions

Sending fills in and signs a transaction, writes it to the journal and then
resumes it.  Resuming looks for a receipt of the transaction or of one of its
fee replacements, sends the recorded bytes again if there is none, and waits
until the inclusion is as deep as the confirmation policy asks.
-/

/-- The block up to which the policy trusts the chain. -/
def EvmConfirmationPolicy.blockTag : EvmConfirmationPolicy → BlockTag
  | confirmations _ => .latest
  | finalized => .finalized

/-- The height at which a receipt is confirmed. -/
def requiredHeight (policy : EvmConfirmationPolicy) (inclusion : Nat) : Except String Nat :=
  let extra :=
    match policy with
    | .confirmations count => count - 1
    | .finalized => 0
  if inclusion + extra < 2 ^ 64 then
    .ok (inclusion + extra)
  else
    .error "confirmation height overflow"

/-- The attempts that share the nonce of the current one. -/
def competingAttempts (journal : Journal) (key : ActionKey)
    (saved : EvmTransaction) : List EvmTransaction :=
  (journal.past key ++ [Transaction.evm saved]).filterMap fun attempt =>
    match attempt with
    | .evm tx => if tx.sender = saved.sender ∧ tx.nonce = saved.nonce then some tx else none
    | .cosmos _ => none

/-- The block of the receipt is on the chain. -/
def canonical (receipt : Receipt) : Deploy Bool := do
  let number ←
    Program.orFail receipt.blockNumber (.failed "receipt has no block number")
  let found : Option BlockHeader ←
    need (.blockByNumber (.number number)) id unavailable
  let block ←
    Program.orFail found
      (.failed "receipt block unavailable; cannot establish canonical inclusion")
  .done (decide (some block.hash = receipt.blockHash))

/-- The receipt that the node has for a hash. -/
def findReceipt (hash : Digest) : Deploy (Option Receipt) := do
  let found : Option Receipt ← need (.transactionReceipt hash) id unavailable
  match found with
  | none => .done none
  | some receipt => do
    Program.ensure (receipt.transactionHash = hash) (.failed "receipt hash mismatch")
    .done (some receipt)

/-- The receipt of an attempt: the recorded one while its block stands, or a new one. -/
def attemptReceipt (attempt : EvmTransaction) : Deploy (Option Receipt) := do
  let journal ← currentJournal
  match journal.confirmation (.evm attempt.hash) with
  | some (.evm receipt) => do
    Program.ensure (receipt.transactionHash = attempt.hash)
      (.failed "cached receipt hash mismatch")
    let stands ← canonical receipt
    if stands then .done (some receipt) else findReceipt attempt.hash
  | _ => findReceipt attempt.hash

/-- The first attempt that is included. -/
def included (attempts : List EvmTransaction) : Deploy (Option Receipt) :=
  Program.firstSome attemptReceipt attempts

/-- Record and return a receipt that is confirmed by now, or go on. -/
def settleReceipt (policy : EvmConfirmationPolicy) (receipt : Receipt)
    (otherwise : Deploy Receipt) : Deploy Receipt := do
  let block ←
    Program.orFail receipt.blockNumber (.failed "receipt has no block number")
  let target ← attemptValue (requiredHeight policy block)
  let found : Option BlockHeader ←
    need (.blockByNumber policy.blockTag) id unavailable
  let head ←
    Program.orFail found (.failed "RPC does not expose confirmation blocks")
  if target ≤ head.number then do
    let stands ← canonical receipt
    Program.ensure (stands = true)
      (.failed "receipt is no longer canonical; resume to resolve its transaction again")
    confirmResult (.evm receipt.transactionHash) (.evm receipt)
    .done receipt
  else
    otherwise

/-- Wait until the receipt is confirmed. -/
def waitReceipt (key : ActionKey) (policy : EvmConfirmationPolicy) : Nat → Receipt → Deploy Receipt
  | 0, receipt =>
    settleReceipt policy receipt
      (.fail (.paused (key.text ++
            ": included, but not yet as deep as the confirmation policy asks; resume to continue")))
  | rounds + 1, receipt =>
    settleReceipt policy receipt do
      ask .sleep
      let found : Option Receipt ←
        need (.transactionReceipt receipt.transactionHash) id unavailable
      let again ←
        Program.orFail found
          (.paused "receipt disappeared before the confirmation target; resume to reconcile")
      Program.ensure (again.transactionHash = receipt.transactionHash)
        (.failed "receipt hash mismatch")
      waitReceipt key policy rounds again

/-- Wait until a receipt is deep enough, and accept it if it succeeded. -/
def waitConfirmed (key : ActionKey) (policy : EvmConfirmationPolicy)
    (receipt : Receipt) : Deploy Receipt := do
  let rounds : Nat ← ask .patience
  let receipt ← waitReceipt key policy rounds receipt
  Program.ensure (receipt.status = true)
    (.failed (key.text ++
        ": recorded transaction reverted; use --retry-failed to review recovery. Pinned gateway CREATE failures require address reconciliation and cannot be retried automatically"))
  .done receipt

/-- Send recorded bytes unless the node has them. -/
def broadcastEvm (key : ActionKey) (saved : EvmTransaction) : Deploy Unit := do
  let known : Bool ← need (.transactionByHash saved.hash) id unavailable
  if known then
    .done ()
  else do
    let sent : Option Digest ← ask (.sendRawTransaction saved.raw)
    let hash ←
      Program.orFail sent
        (.paused (key.text ++
            ": broadcast unresolved; resume to reconcile, or use --bump-fees if fees are insufficient"))
    Program.ensure (hash = saved.hash)
      (.failed "RPC returned a different transaction hash")

/-- Look for a receipt until there is one, for a number of rounds. -/
def awaitInclusion (key : ActionKey) (policy : EvmConfirmationPolicy)
    (attempts : List EvmTransaction) : Nat → Deploy Receipt
  | 0 => do
    let found ← included attempts
    match found with
    | some receipt => waitConfirmed key policy receipt
    | none =>
      .fail
        (.paused (key.text ++
            ": transaction still pending. Resume, or explicitly request --bump-fees to review a fee-only replacement"))
  | rounds + 1 => do
    let found ← included attempts
    match found with
    | some receipt => waitConfirmed key policy receipt
    | none => do
      ask (.waitInclusion key)
      awaitInclusion key policy attempts rounds

variable (lib : Platform)

/-- The larger one of two fees. -/
def larger (first second : U128) : U128 :=
  if first < second then second else first

/-- The request for a replacement of a transaction. -/
def replacementRequest (old : Envelope) (sender : Address)
    (gasPrice : U128) : Except String TransactionRequest :=
  let request := TransactionRequest.fromTransactionWithSender old sender
  if old.maxFeePerGas.toNat * 2 < 2 ^ 128 then
    let doubled := old.maxFeePerGas * 2
    if old.gasPrice.isSome then
      .ok { request with gasPrice := some (larger doubled gasPrice) }
    else if gasPrice.toNat * 2 < 2 ^ 128 then
      let tip := old.maxPriorityFeePerGas.getD 0
      if tip.toNat * 2 < 2 ^ 128 then
        .ok
          { request with
            maxFeePerGas := some (larger doubled (gasPrice * 2))
            maxPriorityFeePerGas := some (larger (tip * 2) 1) }
      else
        .error "fee overflow"
    else
      .error "fee overflow"
  else
    .error "fee overflow"

/-- A replacement has the same intent and type, and a higher fee. -/
def validateReplacement (old new : Envelope) : Except String Unit :=
  match lib.recoverAddress old, lib.recoverAddress new with
  | some oldSender, some newSender =>
    match
      intentHash lib
        (TransactionRequest.fromTransactionWithSender old oldSender),
      intentHash lib
        (TransactionRequest.fromTransactionWithSender new newSender)
    with
    | .ok oldIntent, .ok newIntent =>
      if oldIntent = newIntent ∧ old.ty = new.ty then
        if old.maxFeePerGas < new.maxFeePerGas then
          .ok ()
        else
          .error "replacement fee must increase"
      else
        .error "replacement changed execution fields"
    | .error message, _ => .error message
    | _, .error message => .error message
  | _, _ => .error "invalid signature"

/-- Replace a recorded transaction by one with higher fees. -/
def bumpEvm (session : Session) (scope : Scope) (key : ActionKey)
    (saved : EvmTransaction) : Deploy EvmTransaction := do
  let old ←
    Program.orFail (lib.decodeEnvelope saved.raw)
      (.failed "cannot decode the recorded transaction")
  let signer ←
    Program.orFail (lib.evmAddress scope.evmKey) (.failed "invalid private key")
  Program.ensure
    (signer = saved.sender ∧ lib.recoverAddress old = some saved.sender ∧ old.nonce = saved.nonce)
    (.failed "replacement signer/nonce mismatch")
  let gasPrice : U128 ← need .evmGasPrice id unavailable
  let request ← attemptValue (replacementRequest old saved.sender gasPrice)
  let envelope : Envelope ← need (.fillAndSign signer request) id unavailable
  check (validateReplacement lib old envelope)
  let journal ← currentJournal
  check (checkBudget session.plan journal saved.sender envelope.gasCost (some key))
  let balance : Nat ← need (.evmBalance saved.sender) id unavailable
  Program.ensure (envelope.gasCost + old.value.toNat ≤ balance)
    (.failed "replacement signer lacks funds for gas and value")
  let approved ← askOperator "Approve this fee-only replacement?"
  if approved then do
    let replacement : EvmTransaction :=
      { intent := saved.intent
        raw := lib.encodeEnvelope envelope
        hash := lib.txHash envelope
        sender := saved.sender
        nonce := saved.nonce
        gasCost := envelope.gasCost }
    replaceAction key (.evm replacement)
    .done replacement
  else
    .fail (.paused "replacement declined")

/-- The attempts, with a fee replacement if one is asked for. -/
def latestAttempts (session : Session) (scope : Scope) (key : ActionKey) (saved : EvmTransaction)
    (attempts : List EvmTransaction) : Deploy (List EvmTransaction) :=
  if session.options.bumpFees = some key.text then do
    let replacement ← bumpEvm lib session scope key saved
    .done (attempts ++ [replacement])
  else
    .done attempts

/-- Bring a recorded transaction to its confirmed receipt. -/
def resumeEvm (session : Session) (scope : Scope) (saved : EvmTransaction) (intent : Digest)
    (key : ActionKey) : Deploy Receipt := do
  Program.ensure (saved.intent = intent ∧ lib.keccak256 saved.raw = saved.hash)
    (.failed (key.text ++ ": journal intent or signed bytes mismatch"))
  let journal ← currentJournal
  let attempts := competingAttempts journal key saved
  let found ← included attempts
  match found with
  | some receipt => waitConfirmed key journal.evmConfirmations receipt
  | none => do
    let current : U64 ← need (.transactionCount saved.sender) id unavailable
    Program.ensure (current ≤ saved.nonce)
      (.failed (key.text ++
          ": nonce consumed but recorded transaction unavailable; recover its receipt using a same-network archival RPC before continuing"))
    let attempts ← latestAttempts lib session scope key saved attempts
    let latest ←
      Program.orFail attempts.getLast? (.failed "missing EVM attempt")
    broadcastEvm key latest
    let rounds : Nat ← ask .patience
    awaitInclusion key journal.evmConfirmations attempts rounds

/-- A retry does what the retired transaction was to do, at a later nonce. -/
def validateRetryFields (old new : Envelope) : Except String Unit :=
  if old.nonce < new.nonce ∧ old.chainId = new.chainId ∧ old.kind = new.kind ∧
      old.value = new.value ∧ old.input = new.input ∧
      old.accessList = new.accessList ∧
      old.authorizationList = new.authorizationList ∧
      old.blobVersionedHashes = new.blobVersionedHashes then
    .ok ()
  else
    .error
      "retry must advance the nonce and preserve chain, destination, value and calldata; only fees and gas limit may change"

/-- A retry repeats the transaction that was retired last, for the same signer. -/
def validateRetry (journal : Journal) (key : ActionKey) (new : Envelope) : Except String Unit :=
  match (journal.past key).getLast? with
  | some (.evm last) =>
    match lib.decodeEnvelope last.raw with
    | none => .error "cannot decode the retired transaction"
    | some old =>
      match validateRetryFields old new with
      | .error message => .error message
      | .ok () =>
        if lib.recoverAddress new = some last.sender then
          .ok ()
        else
          .error "retry signer differs from retired attempt"
  | _ => .ok ()

/-- The request that is filled in: sender, chain and gas limit are fixed. -/
def preparedRequest (plan : Plan) (journal : Journal) (key : ActionKey) (signer : Address)
    (request : TransactionRequest) : TransactionRequest :=
  { request with
    fromAddress := some signer
    chainId := some plan.evmChainId
    gas := (journal.retryGasLimits.lookup key).or request.gas }

/-- The account is still at the pinned nonce. -/
def checkPinnedNonce (signer : Address) (label : EvmLabel) : Option U64 → Deploy Unit
  | none => .done ()
  | some nonce => do
    let current : U64 ← need (.transactionCount signer) id unavailable
    Program.ensure (current = nonce)
      (.failed (label.text ++
          ": pinned deployment nonce was consumed; reconcile before proceeding"))

/-- Send the transaction of an action, or resume it. -/
def sendEvm (session : Session) (scope : Scope) (request : TransactionRequest)
    (label : EvmLabel) : Deploy Receipt := do
  let signer ←
    Program.orFail (lib.evmAddress scope.evmKey) (.failed "invalid private key")
  let chainId : U64 ← need .evmChainId id unavailable
  Program.ensure (chainId = session.plan.evmChainId) (.failed "EVM RPC network changed")
  let key := ActionKey.evm scope.step label
  let journal ← currentJournal
  let request := preparedRequest session.plan journal key signer request
  let intent ← attemptValue (intentHash lib request)
  let saved ← getAction key
  match saved with
  | some (.evm saved) => resumeEvm lib session scope saved intent key
  | some (.cosmos _) => .fail (.failed "journal transaction type mismatch")
  | none => do
    checkPinnedNonce signer label request.nonce
    need (.simulateCall request) id (.failed (label.text ++ ": simulation failed"))
    let envelope : Envelope ← need (.fillAndSign signer request) id unavailable
    let journal ← currentJournal
    check (validateRetry lib journal key envelope)
    check (checkBudget session.plan journal signer envelope.gasCost none)
    let approved ← askOperator "Send this transaction?"
    if approved then do
      let saved : EvmTransaction :=
        { intent := intent
          raw := lib.encodeEnvelope envelope
          hash := lib.txHash envelope
          sender := signer
          nonce := envelope.nonce
          gasCost := envelope.gasCost }
      recordAction key (.evm saved)
      resumeEvm lib session scope saved intent key
    else
      .fail
        (.paused
          "Transaction declined; it was not submitted. Run the continue command when you are ready to review and approve it.")

/-- Resume a recorded transaction. -/
def reconcileEvm (session : Session) (scope : Scope) (key : ActionKey)
    (saved : Transaction) : Deploy Unit :=
  match saved with
  | .cosmos _ => .done ()
  | .evm saved => do
    let _ ← resumeEvm lib session scope saved saved.intent key
    .done ()

/-- The creations that can be made at another address. -/
def retryableCreate (key : ActionKey) : Bool :=
  key = .evm .evmCompatibilityCheck .deployCompatibilityProbe ∨
    key = .evm .constAddressDeployer (.contract .constAddressDeployer) ∨
    key = .evm .axelarGasService .gasImplementation ∨
    key = .evm .axelarGasService .gasProxy

/-- The action can be retried. -/
def validateAction (key : ActionKey) (saved : EvmTransaction) : Except String Unit :=
  if key.step = .axelarGateway then
    .error
      "gateway CREATE failure consumed a nonce pinned to the address registered on Cosmos. A retry would deploy at a different address. Preserve the journal; reconcile/update the Cosmos gateway registration through a separately reviewed recovery before deploying a replacement. No retry was authorized"
  else
    match lib.decodeEnvelope saved.raw with
    | none => .error "cannot decode the recorded transaction"
    | some tx =>
      if lib.txHash tx = saved.hash ∧ tx.nonce = saved.nonce ∧
          lib.recoverAddress tx = some saved.sender then
        if tx.kind.destination = none ∧ ¬ retryableCreate key then
          .error
            ("CREATE action " ++ key.text ++ " has no safe address-preserving recovery policy")
        else
          .ok ()
      else
        .error "journal signed EVM transaction identity mismatch"

/-- A later nonce of the same sender was signed. -/
def laterSigned (journal : Journal) (saved : EvmTransaction) : Bool :=
  journal.recorded.any fun transaction =>
    match transaction with
    | .evm tx => decide (tx.sender = saved.sender ∧ saved.nonce < tx.nonce)
    | .cosmos _ => false

/-- The sender has signed nothing after a failed creation. -/
def validateCreateOrder (journal : Journal) (saved : EvmTransaction) : Except String Unit :=
  match lib.decodeEnvelope saved.raw with
  | none => .error "cannot decode the recorded transaction"
  | some tx =>
    if tx.kind.destination = none ∧ laterSigned journal saved then
      .error
        "a later transaction is already signed by this CREATE deployer; reconcile dependent addresses before retrying"
    else
      .ok ()

/-- Check the record of every competing attempt. -/
def validateActions (key : ActionKey) : List EvmTransaction → Except String Unit
  | [] => .ok ()
  | attempt :: rest =>
    match validateAction lib key attempt with
    | .error message => .error message
    | .ok () => validateActions key rest

/-- Make sure that a transaction failed for good. -/
def proveFailed (session : Session) (key : ActionKey) (saved : EvmTransaction) : Deploy Digest := do
  let chainId : U64 ← need .evmChainId id unavailable
  Program.ensure (chainId = session.plan.evmChainId)
    (.failed "recovery RPC network mismatch")
  check (validateAction lib key saved)
  let journal ← currentJournal
  let attempts := competingAttempts journal key saved
  check (validateActions lib key attempts)
  check (validateCreateOrder lib journal saved)
  let found ← included attempts
  let receipt ←
    Program.orFail found
      (.failed "no receipt proving failure; unknown transactions cannot be retired")
  Program.ensure (receipt.status = false)
    (.failed "successful transactions cannot be retried")
  let rounds : Nat ← ask .patience
  let receipt ← waitReceipt key .finalized rounds receipt
  Program.ensure (receipt.status = false)
    (.failed "transaction became successful while waiting; cannot retire it")
  .done receipt.transactionHash

end Axe.Hardened

import Axe.HardenedCosmos
import Axe.HardenedEvm

namespace Axe.Hardened

/-!
# Retiring failed attempts

An operator can ask to retire the current transaction of the next pending step.
An EVM transaction is retired when a failed receipt is finalized.  A Cosmos
transaction is retired when the journal has a failed result of an attempt with
its sequence number and the account has moved on to a later number.
-/

/-- The named recovery action must exist, and its options must fit its kind. -/
def validateOption (options : Options) (actions : List (ActionKey × Transaction))
    (key : String) : Except String Unit :=
  match actions.find? fun action => action.1.text = key with
  | none =>
    .error
      ("unknown recovery action " ++ key ++
        "; remove the flag if that attempt was already retired and resume normally")
  | some (_, saved) =>
    let isEvm : Bool :=
      match saved with
      | .evm _ => true
      | .cosmos _ => false
    if options.retryFailed = some key ∧ options.retryGasLimit.isSome ∧ ¬ isEvm then
      .error "--retry-gas-limit only applies to EVM actions"
    else if options.bumpFees = some key ∧ (!isEvm) ≠ options.cosmosFee.isSome then
      .error
        "Cosmos fee replacement requires --cosmos-fee <total-base-units>; EVM replacements must omit it"
    else
      .ok ()

/-- The flags name recorded actions to which they apply. -/
def validateOptions (options : Options)
    (actions : List (ActionKey × Transaction)) : Except String Unit :=
  (options.bumpFees.toList ++ options.retryFailed.toList).forM
    (validateOption options actions)

/-- The proposal that a step submits. -/
def stepProposal : StepName → Option String
  | .instantiateChainContracts => some "instantiate"
  | .registerItsOnHub => some "itsHubRegister"
  | _ => none

/-- Only the next pending step can be retried, and no proposal may exist. -/
def validateProgress (state : State) (key : ActionKey) : Except String Unit :=
  if (nextPendingStep state).any (fun next => next.2.name = key.step) ∧
      state.steps.any (fun step => step.name = key.step ∧ step.status = .pending) then
    if (stepProposal key.step).all fun proposal =>
        (state.proposals.lookup proposal).isNone then
      .ok ()
    else
      .error
        "a proposal already exists; a rejected/failed proposal cannot use transaction retry"
  else
    .error
      "only the next pending step can be retried; completed or dependent actions require reconciliation"

variable (lib : Platform)

/-- The actions that can be retried. -/
def retryableCosmos (key : ActionKey) : Bool :=
  key = .cosmos .waitForVerifierSet ∨ key = .cosmos .addRewards ∨
    key = .cosmos .instantiateChainContracts ∨ key = .cosmos .registerItsOnHub

/-- The attempt, if the journal has a failure of it. -/
def confirmedFailure (journal : Journal) (saved : CosmosTransaction)
    (attempt : Transaction) : Option CosmosTransaction :=
  match attempt with
  | .evm _ => none
  | .cosmos tx =>
    if tx.sender = saved.sender ∧ tx.sequence = saved.sequence then
      match journal.confirmation (.cosmos tx.hash) with
      | some (.cosmos height code _) => if 0 < height ∧ code ≠ 0 then some tx else none
      | _ => none
    else
      none

/-- The attempt of an action that failed. -/
def failedAttempt (journal : Journal) (key : ActionKey)
    (saved : CosmosTransaction) : Except String Digest :=
  match
    (journal.past key ++ [Transaction.cosmos saved]).findSome?
      (confirmedFailure journal saved)
  with
  | none =>
    .error
      ("no confirmed failure for " ++ key.text ++
        "; unknown or successful transactions cannot be retried")
  | some tx =>
    match validateSequence lib tx.raw saved.sequence with
    | .error message => .error message
    | .ok () =>
      if lib.sha256 tx.raw = tx.hash then
        .ok tx.hash
      else
        .error "failed transaction hash mismatch"

/-- Make sure that the recorded transaction failed. -/
def proveFailure (session : Session) (key : ActionKey) (saved : Transaction)
    (lcd : String) : Deploy Digest :=
  match saved with
  | .evm saved => proveFailed lib session key saved
  | .cosmos saved => do
    Program.ensure (retryableCosmos key = true)
      (.failed "unsupported Cosmos retry action")
    -- Whatever this lookup finds, the decision is made from the journal.
    let _ : Except Stop (Option TxResponse) ←
      (confirmed lib session lcd saved key).attempt
    let journal ← currentJournal
    let hash ← attemptValue (failedAttempt lib journal key saved)
    let account : Nat × Nat ← need (.queryAccount lcd saved.sender) id unavailable
    Program.ensure (saved.sequence < account.2)
      (.failed
        "failed Cosmos transaction did not consume its sequence; keep the journal and reconcile the account before retiring this attempt")
    .done hash

/-- Retire a failed attempt if that is asked for and approved. -/
def retryFailed (session : Session) (key : ActionKey) (saved : Transaction)
    (lcd : String) : Deploy Bool :=
  if session.options.retryFailed = some key.text then do
    let state ← currentState
    check (validateProgress state key)
    let _ ← proveFailure lib session key saved lcd
    let approved ←
      askOperator ("Retire the failed attempt of " ++ key.text ++ "? ")
    if approved then do
      retireAction key session.options.retryGasLimit
      .fail
        (.paused
          "Failed attempt retired. Resume without --retry-failed/--retry-gas-limit; the saved gas override (if any) will be used. The next transaction still requires approval.")
    else
      .fail (.paused "retry declined")
  else
    .done false

/-- Retire or resume a recorded action. -/
def recoverAction (session : Session) (scope : Scope) (key : ActionKey) (saved : Transaction)
    (lcd : String) : Deploy Unit := do
  let retired ← retryFailed lib session key saved lcd
  if retired then
    .done ()
  else do
    reconcileEvm lib session scope key saved
    reconcileCosmos lib session key saved lcd

end Axe.Hardened

import Axe.HardenedJournal

namespace Axe.Verification

open Hardened

/-!
# Transactions under verification

A transaction that was sent is watched until it succeeded, failed or timed out.
Its state is the phase it waits in, or its verdict.  Callers stamp the times at
which phases were passed; the transitions below only guard the state.

Moments are nanoseconds of a clock.  Seconds are exact numbers here; the code
keeps them as floating-point numbers.
-/

/-- A reading of the monotonic clock, in nanoseconds. -/
abbrev Instant := Nat

abbrev Secs := Rat

/-- The phases of a verification. -/
inductive Phase where
  | voted
  | routed
  | hubApproved
  | discoverSecondLeg
  | approved
  | executed
  deriving DecidableEq

/-- The phases that may follow a phase. -/
def Phase.canTransitionTo : Phase → Phase → Bool
  | .voted, .routed => true
  | .voted, .hubApproved => true
  | .voted, .approved => true
  | .routed, .hubApproved => true
  | .routed, .approved => true
  | .hubApproved, .discoverSecondLeg => true
  | .hubApproved, .approved => true
  | .discoverSecondLeg, .routed => true
  | .discoverSecondLeg, .approved => true
  | .approved, .executed => true
  | _, _ => false

inductive VerificationFailure where
  | error (reason : String)
  | timedOut (reason : String)
  deriving DecidableEq

def VerificationFailure.reason : VerificationFailure → String
  | .error reason => reason
  | .timedOut reason => reason

/-- The phase a transaction waits in, or its verdict. -/
inductive VerificationState where
  | active (phase : Phase)
  | succeeded (recoveredViaApi : Bool)
  | failed (phase : Phase) (failure : VerificationFailure)
  deriving DecidableEq

/-- The message from the hub to the destination, once it is found. -/
structure SecondLeg where
  messageId : String
  payloadHash : Digest
  sourceAddress : String
  destinationAddress : String
  deriving DecidableEq

/-- The seconds from sending to the end of each phase. -/
structure AmplifierTiming where
  votedSecs : Option Secs
  routedSecs : Option Secs
  hubApprovedSecs : Option Secs
  approvedSecs : Option Secs
  executedSecs : Option Secs
  executedOk : Option Bool
  deriving DecidableEq

def AmplifierTiming.default : AmplifierTiming where
  votedSecs := none
  routedSecs := none
  hubApprovedSecs := none
  approvedSecs := none
  executedSecs := none
  executedOk := none

/-- A transaction under verification. -/
structure PendingTx where
  idx : Nat
  messageId : String
  sendInstant : Instant
  sourceAddress : String
  contractAddr : Address
  payloadHash : Option Digest
  payloadHashHex : String
  commandId : Option Digest
  gmpDestinationChain : String
  gmpDestinationAddress : String
  timing : AmplifierTiming
  state : VerificationState
  secondLeg : Option SecondLeg
  deriving DecidableEq

structure PendingTxInput where
  idx : Nat
  messageId : String
  sendInstant : Instant
  sourceAddress : String
  contractAddr : Address
  payloadHash : Option Digest
  payloadHashHex : String
  commandId : Option Digest
  gmpDestinationChain : String
  gmpDestinationAddress : String
  initialPhase : Phase
  deriving DecidableEq

namespace PendingTx

def new (input : PendingTxInput) : PendingTx where
  idx := input.idx
  messageId := input.messageId
  sendInstant := input.sendInstant
  sourceAddress := input.sourceAddress
  contractAddr := input.contractAddr
  payloadHash := input.payloadHash
  payloadHashHex := input.payloadHashHex
  commandId := input.commandId
  gmpDestinationChain := input.gmpDestinationChain
  gmpDestinationAddress := input.gmpDestinationAddress
  timing := .default
  state := .active input.initialPhase
  secondLeg := none

def elapsedSecs (tx : PendingTx) (now : Instant) : Secs :=
  ((now - tx.sendInstant : Nat) : Rat) / 1000000000

def phase (tx : PendingTx) : Option Phase :=
  match tx.state with
  | .active phase => some phase
  | .failed phase _ => some phase
  | .succeeded _ => none

def isPhase (tx : PendingTx) (phase : Phase) : Bool := decide (tx.state = .active phase)

def isActive (tx : PendingTx) : Bool :=
  match tx.state with
  | .active _ => true
  | _ => false

def isFailed (tx : PendingTx) : Bool :=
  match tx.state with
  | .failed _ _ => true
  | _ => false

def isTimedOut (tx : PendingTx) : Bool :=
  match tx.state with
  | .failed _ (.timedOut _) => true
  | _ => false

def isSucceeded (tx : PendingTx) : Bool :=
  match tx.state with
  | .succeeded _ => true
  | _ => false

def recoveredViaApi (tx : PendingTx) : Bool :=
  match tx.state with
  | .succeeded recovered => recovered
  | _ => false

def failureReason (tx : PendingTx) : Option String :=
  match tx.state with
  | .failed _ failure => some failure.reason
  | _ => none

/-!
The transitions also return whether they were applied.  A refused transition
leaves the transaction as it was.
-/

/-- Move on to a phase, if it may follow. -/
def transitionTo (tx : PendingTx) (next : Phase) : PendingTx × Bool :=
  match tx.state with
  | .active current =>
    if current.canTransitionTo next then ({ tx with state := .active next }, true) else (tx, false)
  | _ => (tx, false)

/-- Remember the second leg and move on. -/
def discoverSecondLeg (tx : PendingTx) (secondLeg : SecondLeg) (next : Phase) : PendingTx × Bool :=
  match tx.state with
  | .active current =>
    if current ≠ .discoverSecondLeg ∨ current.canTransitionTo next = false then
      (tx, false)
    else
      ({ tx with secondLeg := some secondLeg, state := .active next }, true)
  | _ => (tx, false)

def approveDestination (tx : PendingTx) (commandId : Option Digest) : PendingTx × Bool :=
  if tx.isPhase .approved then
    ({ tx with
        commandId := commandId.or tx.commandId
        state := .active .executed }, true)
  else
    (tx, false)

def executeDestination (tx : PendingTx) (commandId : Option Digest) : PendingTx × Bool :=
  if tx.isPhase .approved || tx.isPhase .executed then
    ({ tx with
        commandId := commandId.or tx.commandId
        state := .succeeded false }, true)
  else
    (tx, false)

/-- End with success. -/
def succeed (tx : PendingTx) (recovered : Bool) : PendingTx × Bool :=
  if tx.isActive then ({ tx with state := .succeeded recovered }, true) else (tx, false)

/-- End with a failure, unless it has ended. -/
def failWith (tx : PendingTx) (failure : VerificationFailure) : PendingTx × Bool :=
  match tx.state with
  | .active phase => ({ tx with state := .failed phase failure }, true)
  | _ => (tx, false)

def fail (tx : PendingTx) (reason : String) : PendingTx × Bool := tx.failWith (.error reason)

/-- End with a timeout. -/
def timeOut (tx : PendingTx) (label : String) : PendingTx × Bool :=
  tx.failWith (.timedOut (label ++ ": timed out"))

end PendingTx

end Axe.Verification

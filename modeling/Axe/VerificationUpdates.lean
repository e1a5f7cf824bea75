import Axe.VerificationState

namespace Axe.Verification

open Hardened

/-!
# What observations do to a batch

A poll cycle collects observations by transaction number and then applies them
in order, without waiting in between.  The clock is read again for each one, so
the functions below take the readings they will get.
-/

abbrev Readings := Nat → Instant

def updateAt (change : PendingTx → PendingTx × Bool) (index : Nat)
    (txs : List PendingTx) : List PendingTx × Bool :=
  match txs[index]? with
  | some tx => (txs.set index (change tx).1, (change tx).2)
  | none => (txs, false)

/-- Apply observations in order, and tell whether any of them moved something. -/
def applyEach {Status : Type} (change : Instant → Status → PendingTx → PendingTx × Bool) :
    Readings → List (Nat × Status) → List PendingTx → List PendingTx × Bool
  | _, [], txs => (txs, false)
  | clock, (index, status) :: rest, txs =>
    let first := updateAt (change (clock 0) status) index txs
    let others := applyEach change (fun reading => clock (reading + 1)) rest first.1
    (others.1, first.2 || others.2)

namespace AmplifierTiming

def setVoted (secs : Secs) (timing : AmplifierTiming) : AmplifierTiming :=
  { timing with votedSecs := some secs }

def setRouted (secs : Secs) (timing : AmplifierTiming) : AmplifierTiming :=
  { timing with routedSecs := some secs }

def setHubApproved (secs : Secs) (timing : AmplifierTiming) : AmplifierTiming :=
  { timing with hubApprovedSecs := some secs }

end AmplifierTiming

/-- Stamp one Cosmos-side time and advance, if the check came back positive. -/
def observeCosmos (setTiming : Secs → AmplifierTiming → AmplifierTiming) (nextPhase : Phase)
    (now : Instant) (observed : Bool) (tx : PendingTx) : PendingTx × Bool :=
  if observed then
    -- The time is stamped whether or not the transition is then refused.
    { tx with timing := setTiming (tx.elapsedSecs now) tx.timing }.transitionTo nextPhase
  else
    (tx, false)

inductive DestinationStatus where
  | pending
  | approved (commandId : Option Digest)
  | executed (commandId : Option Digest)
  deriving DecidableEq

abbrev DestinationObservation := Nat × DestinationStatus

/-- Apply what was observed at the destination. -/
def observeDestination (now : Instant) (status : DestinationStatus)
    (tx : PendingTx) : PendingTx × Bool :=
  if tx.isActive then
    match status with
    | .pending => (tx, false)
    | .approved commandId =>
      if tx.isPhase .approved then
        { tx with
          timing := { tx.timing with approvedSecs := some (tx.elapsedSecs now) }
          }.approveDestination commandId
      else
        (tx, false)
    | .executed commandId =>
      { tx with
        timing :=
          { tx.timing with
            approvedSecs := tx.timing.approvedSecs.or (some (tx.elapsedSecs now))
            executedSecs := some (tx.elapsedSecs now)
            executedOk := some true }
        }.executeDestination commandId
  else
    (tx, false)

/-- Apply all observations of a poll. -/
def applyDestinationObservations (clock : Readings) (observations : List DestinationObservation)
    (txs : List PendingTx) : List PendingTx × Bool :=
  applyEach observeDestination clock observations txs

def gmpAfterVoted (hasCosmGateway : Bool) : Phase :=
  if hasCosmGateway then .routed else .approved

def gmpAfterRouted (hasAxelarnetGateway : Bool) : Phase :=
  if hasAxelarnetGateway then .hubApproved else .approved

inductive SecondLegTarget where
  | routed
  | destinationApproval
  deriving DecidableEq

def SecondLegTarget.phase : SecondLegTarget → Phase
  | .routed => .routed
  | .destinationApproval => .approved

/-- Apply whether the hub approved the message. -/
def observeHubApproved (backfillVotedTiming : Bool) (now : Instant) (observed : Bool)
    (tx : PendingTx) : PendingTx × Bool :=
  if observed then
    let elapsed := tx.elapsedSecs now
    let timing :=
      if backfillVotedTiming && tx.timing.votedSecs.isNone then
        tx.timing.setVoted elapsed
      else
        tx.timing
    { tx with timing := timing.setHubApproved elapsed }.transitionTo .discoverSecondLeg
  else
    (tx, false)

/-- Apply the second leg that was found. -/
def observeSecondLeg (target : SecondLegTarget) (_ : Instant) (found : Option SecondLeg)
    (tx : PendingTx) : PendingTx × Bool :=
  match found with
  | some secondLeg => tx.discoverSecondLeg secondLeg target.phase
  | none => (tx, false)

def normalizeStart (hasVotingVerifier : Bool) (tx : PendingTx) : PendingTx :=
  if hasVotingVerifier = false ∧ tx.isPhase .voted then (tx.transitionTo .hubApproved).1 else tx

/-- Fail a transaction that was reported as failed. -/
def failFast (reportedFailed : Bool) (tx : PendingTx) : PendingTx :=
  if tx.isActive && reportedFailed then
    (tx.fail "GMP API reports the message failed (hub/destination execute error)").1
  else
    tx

structure DestinationLabels where
  approval : String
  execution : String
  deriving DecidableEq

def DestinationLabels.waitingFor (labels : DestinationLabels) : Phase → String
  | .voted => "VotingVerifier"
  | .routed => "cosmos routing"
  | .hubApproved => "hub approval"
  | .discoverSecondLeg => "second-leg discovery"
  | .approved => labels.approval
  | .executed => labels.execution

def markTimedOutTx (labels : DestinationLabels) (now : Instant) (executed : Bool)
    (tx : PendingTx) : PendingTx :=
  if executed then
    ({ tx with
      timing :=
        { tx.timing with
          executedSecs := tx.timing.executedSecs.or (some (tx.elapsedSecs now))
          executedOk := some true } }.succeed true).1
  else
    match tx.phase with
    | none => tx
    | some phase =>
      let stamped :=
        if phase = .executed then
          { tx with timing := { tx.timing with executedOk := some false } }
        else
          tx
      (stamped.timeOut (labels.waitingFor phase)).1

/-- Give a transaction that is still active its verdict. -/
def finalizeTimedOutTx (labels : DestinationLabels) (now : Instant) (executed : Bool)
    (tx : PendingTx) : PendingTx :=
  if tx.isActive then markTimedOutTx labels now executed tx else tx

end Axe.Verification

import Mathlib.Algebra.BigOperators.Group.List.Basic
import Axe.VerificationUpdates

namespace Axe.Verification

/-!
# The verification report

The report counts verdicts and sums up timings.  Counts by category are kept in
a table; in which order the code lists its entries is not determined.
-/

def countOne {Key : Type} [DecidableEq Key] (key : Key) : List (Key × Nat) → List (Key × Nat)
  | [] => [(key, 1)]
  | entry :: rest =>
    if entry.1 = key then (key, entry.2 + 1) :: rest else entry :: countOne key rest

def countAll {Key : Type} (table : List (Key × Nat)) : Nat := (table.map Prod.snd).sum

inductive FailureCategoryKind where
  | error
  | timedOut
  deriving DecidableEq

structure FailureCategory where
  reason : String
  count : Nat
  kind : FailureCategoryKind
  deriving DecidableEq

/-- The phase in which a transaction was left. -/
def stuckPhase (tx : PendingTx) : String :=
  match tx.phase with
  | some .voted => "voted"
  | some .routed => "routed"
  | some .hubApproved => "hub approved"
  | some .discoverSecondLeg => "second-leg discovery"
  | some .approved => "approved"
  | some .executed => "executed"
  | none => "unknown"

/-- The counters of the loop over all transactions. -/
structure Tally where
  successful : Nat
  failed : Nat
  failureReasons : List ((String × FailureCategoryKind) × Nat)
  stuckCount : Nat
  stuckPhases : List (String × Nat)
  recoveredViaApi : Nat
  deriving DecidableEq

namespace Tally

def empty : Tally where
  successful := 0
  failed := 0
  failureReasons := []
  stuckCount := 0
  stuckPhases := []
  recoveredViaApi := 0

/-- Count a failed transaction under its reason, and its phase if it got stuck. -/
def addFailed (tally : Tally) (tx : PendingTx) : Tally :=
  let counted := { tally with failed := tally.failed + 1 }
  match tx.failureReason with
  | none => counted
  | some reason =>
    let kind := if tx.isTimedOut then FailureCategoryKind.timedOut else .error
    let categorized :=
      { counted with failureReasons := countOne (reason, kind) counted.failureReasons }
    if tx.isTimedOut then
      { categorized with
        stuckCount := categorized.stuckCount + 1
        stuckPhases := countOne (stuckPhase tx) categorized.stuckPhases }
    else
      categorized

/-- Count a transaction that only the GMP API reported as executed. -/
def noteRecovered (tally : Tally) (tx : PendingTx) : Tally :=
  if tx.recoveredViaApi then { tally with recoveredViaApi := tally.recoveredViaApi + 1 } else tally

def add (tally : Tally) (tx : PendingTx) : Tally :=
  let noted := tally.noteRecovered tx
  if tx.isFailed then
    noted.addFailed tx
  else if tx.timing.executedOk = some true then
    { noted with successful := noted.successful + 1 }
  else
    noted

def ofTxs (txs : List PendingTx) : Tally := txs.foldl add empty

end Tally

def reduceWith {Value : Type} (combine : Value → Value → Value) : List Value → Option Value
  | [] => none
  | first :: rest => some (rest.foldl combine first)

def minOption (values : List Secs) : Option Secs :=
  reduceWith (fun first second => if first ≤ second then first else second) values

def maxOption (values : List Secs) : Option Secs :=
  reduceWith (fun first second => if first ≤ second then second else first) values

def avgOption (values : List Secs) : Option Secs :=
  if values.isEmpty then none else some (values.foldl (· + ·) 0 / (values.length : Rat))

structure PeakThroughput where
  votedTps : Option Rat
  routedTps : Option Rat
  hubApprovedTps : Option Rat
  approvedTps : Option Rat
  executedTps : Option Rat
  deriving DecidableEq

/-- How many transactions passed a phase in each second of its active window. -/
def sustainedRate (times : List Secs) : Option Rat :=
  if times.length < 2 then
    none
  else
    match minOption times, maxOption times with
    | some first, some last =>
      -- A phase that was crossed within one poll counts as one poll long.
      let window := if last - first ≤ 5 then 5 else last - first
      some ((times.length : Rat) / window)
    | _, _ => none

def passedAt (epoch : Instant) (txs : List PendingTx)
    (slot : AmplifierTiming → Option Secs) : List Secs :=
  txs.filterMap fun tx =>
    (slot tx.timing).map fun secs => ((tx.sendInstant - epoch : Nat) : Rat) / 1000000000 + secs

/-- The sustained rate of each phase. -/
def computePeakThroughput (txs : List PendingTx) : PeakThroughput :=
  match reduceWith min (txs.map PendingTx.sendInstant) with
  | none => ⟨none, none, none, none, none⟩
  | some epoch =>
    { votedTps := sustainedRate (passedAt epoch txs AmplifierTiming.votedSecs)
      routedTps := sustainedRate (passedAt epoch txs AmplifierTiming.routedSecs)
      hubApprovedTps := sustainedRate (passedAt epoch txs AmplifierTiming.hubApprovedSecs)
      approvedTps := sustainedRate (passedAt epoch txs AmplifierTiming.approvedSecs)
      executedTps := sustainedRate (passedAt epoch txs AmplifierTiming.executedSecs) }

def executedAt (tx : PendingTx) : Option Instant :=
  if tx.timing.executedOk = some true then
    tx.timing.executedSecs.map fun secs => tx.sendInstant + (secs * 1000000000).floor.toNat
  else
    none

def timeToLastSuccess (txs : List PendingTx) : Option Secs :=
  match reduceWith min (txs.map PendingTx.sendInstant),
      reduceWith max (txs.filterMap executedAt) with
  | some start, some last =>
    if start < last then some (((last - start : Nat) : Rat) / 1000000000) else none
  | _, _ => none

structure VerificationReport where
  totalVerified : Nat
  successful : Nat
  pending : Nat
  failed : Nat
  successRate : Rat
  failureReasons : List FailureCategory
  avgVotedSecs : Option Secs
  avgRoutedSecs : Option Secs
  avgHubApprovedSecs : Option Secs
  avgApprovedSecs : Option Secs
  avgExecutedSecs : Option Secs
  minExecutedSecs : Option Secs
  maxExecutedSecs : Option Secs
  timeToLastSuccessSecs : Option Secs
  peakThroughput : PeakThroughput
  stuck : Nat
  stuckAt : List FailureCategory
  recoveredViaApi : Nat
  deriving DecidableEq

def timings (txs : List PendingTx) (slot : AmplifierTiming → Option Secs) : List Secs :=
  txs.filterMap fun tx => slot tx.timing

/-- The counts, the times and the failures of a run. -/
def computeVerificationReport (txs : List PendingTx)
    (peakThroughput : PeakThroughput) : VerificationReport :=
  let tally := Tally.ofTxs txs
  let totalVerified := tally.successful + tally.failed
  { totalVerified := totalVerified
    successful := tally.successful
    pending := 0
    failed := tally.failed
    successRate :=
      if 0 < totalVerified then (tally.successful : Rat) / (totalVerified : Rat) else 0
    failureReasons := tally.failureReasons.map fun entry => ⟨entry.1.1, entry.2, entry.1.2⟩
    avgVotedSecs := avgOption (timings txs AmplifierTiming.votedSecs)
    avgRoutedSecs := avgOption (timings txs AmplifierTiming.routedSecs)
    avgHubApprovedSecs := avgOption (timings txs AmplifierTiming.hubApprovedSecs)
    avgApprovedSecs := avgOption (timings txs AmplifierTiming.approvedSecs)
    avgExecutedSecs := avgOption (timings txs AmplifierTiming.executedSecs)
    minExecutedSecs := minOption (timings txs AmplifierTiming.executedSecs)
    maxExecutedSecs := maxOption (timings txs AmplifierTiming.executedSecs)
    timeToLastSuccessSecs := timeToLastSuccess txs
    peakThroughput := peakThroughput
    stuck := tally.stuckCount
    stuckAt := tally.stuckPhases.map fun entry => ⟨entry.1, entry.2, .timedOut⟩
    recoveredViaApi := tally.recoveredViaApi }

def categoryTotal (categories : List FailureCategory) : Nat :=
  (categories.map FailureCategory.count).sum

section Counting

variable {Key : Type} [DecidableEq Key]

@[simp] theorem countAll_countOne (key : Key) (table : List (Key × Nat)) :
    countAll (countOne key table) = countAll table + 1 := by
  induction table with
  | nil => simp [countOne, countAll]
  | cons entry rest ih =>
    simp only [countAll, List.map_cons, List.sum_cons, countOne] at ih ⊢
    split
    · simp only [List.map_cons, List.sum_cons]
      omega
    · simp only [List.map_cons, List.sum_cons, ih]
      omega

end Counting

variable {tx : PendingTx}

theorem PendingTx.failureReason_of_isFailed (failed : tx.isFailed = true) :
    ∃ reason, tx.failureReason = some reason := by
  unfold PendingTx.isFailed at failed
  unfold PendingTx.failureReason
  split at failed
  · rename_i phase failure _
    exact ⟨failure.reason, rfl⟩
  · cases failed

/-- Every counted failure is in a category, and every stuck one in a phase. -/
structure Tally.Balanced (tally : Tally) : Prop where
  reasons : countAll tally.failureReasons = tally.failed
  phases : countAll tally.stuckPhases = tally.stuckCount

theorem Tally.Balanced.addFailed {tally : Tally} (balanced : tally.Balanced)
    (failed : tx.isFailed = true) :
    (tally.addFailed tx).Balanced := by
  obtain ⟨reason, known⟩ := PendingTx.failureReason_of_isFailed failed
  unfold Tally.addFailed
  rw [known]
  by_cases stuck : tx.isTimedOut = true
  · simp only [stuck, if_true]
    exact ⟨by simp [balanced.reasons], by simp [balanced.phases]⟩
  · simp only [stuck]
    exact ⟨by simp [balanced.reasons], balanced.phases⟩

theorem Tally.Balanced.add {tally : Tally} (balanced : tally.Balanced) (tx : PendingTx) :
    (tally.add tx).Balanced := by
  have noted : (tally.noteRecovered tx).Balanced := by
    unfold Tally.noteRecovered
    split
    · exact ⟨balanced.reasons, balanced.phases⟩
    · exact balanced
  unfold Tally.add
  dsimp only
  split
  · rename_i failed
    exact noted.addFailed failed
  · split
    · exact ⟨noted.reasons, noted.phases⟩
    · exact noted

theorem Tally.balanced_ofTxs (txs : List PendingTx) : (Tally.ofTxs txs).Balanced := by
  have counted : ∀ tally : Tally, tally.Balanced → (txs.foldl Tally.add tally).Balanced := by
    induction txs with
    | nil =>
      intro tally balanced
      exact balanced
    | cons tx rest ih =>
      intro tally balanced
      exact ih _ (balanced.add tx)
  exact counted Tally.empty ⟨rfl, rfl⟩

def PendingTx.Counted (tx : PendingTx) : Prop :=
  tx.isFailed = true ∨ tx.timing.executedOk = some true

@[simp] theorem Tally.noteRecovered_successful (tally : Tally) (tx : PendingTx) :
    (tally.noteRecovered tx).successful = tally.successful := by
  unfold Tally.noteRecovered
  split <;> rfl

@[simp] theorem Tally.noteRecovered_failed (tally : Tally) (tx : PendingTx) :
    (tally.noteRecovered tx).failed = tally.failed := by
  unfold Tally.noteRecovered
  split <;> rfl

theorem Tally.addFailed_verdicts (tally : Tally) (tx : PendingTx) :
    (tally.addFailed tx).successful = tally.successful ∧
      (tally.addFailed tx).failed = tally.failed + 1 := by
  unfold Tally.addFailed
  split
  · exact ⟨rfl, rfl⟩
  · dsimp only
    split <;> exact ⟨rfl, rfl⟩

theorem Tally.add_verdicts (tally : Tally) (counted : tx.Counted) :
    (tally.add tx).successful + (tally.add tx).failed = tally.successful + tally.failed + 1 := by
  by_cases failed : tx.isFailed = true
  · obtain ⟨sameSuccesses, moreFailures⟩ := (tally.noteRecovered tx).addFailed_verdicts tx
    simp [Tally.add, failed, sameSuccesses, moreFailures]
    omega
  · rcases counted with yes | executed
    · exact absurd yes failed
    · simp [Tally.add, failed, executed]
      omega

variable {txs : List PendingTx}

theorem Tally.verdicts_ofTxs (counted : ∀ tx ∈ txs, tx.Counted) :
    (Tally.ofTxs txs).successful + (Tally.ofTxs txs).failed = txs.length := by
  have added : ∀ tally : Tally,
        (txs.foldl Tally.add tally).successful + (txs.foldl Tally.add tally).failed =
          tally.successful + tally.failed + txs.length := by
    induction txs with
    | nil =>
      intro tally
      rfl
    | cons tx rest ih =>
      intro tally
      have rest :=
        ih (fun other member => counted other (List.mem_cons_of_mem _ member))
          (tally.add tx)
      have first := tally.add_verdicts (counted tx List.mem_cons_self)
      simp only [List.foldl_cons, List.length_cons]
      omega
  have total := added Tally.empty
  simpa [Tally.ofTxs, Tally.empty] using total

structure VerificationReport.Accounts (report : VerificationReport)
    (txs : List PendingTx) : Prop where
  verdicts : report.successful + report.failed = txs.length
  categories : categoryTotal report.failureReasons = report.failed
  stuck : categoryTotal report.stuckAt = report.stuck

theorem computeVerificationReport_accounts (counted : ∀ tx ∈ txs, tx.Counted)
    (peakThroughput : PeakThroughput) :
    (computeVerificationReport txs peakThroughput).Accounts txs := by
  have balanced := Tally.balanced_ofTxs txs
  constructor
  · exact Tally.verdicts_ofTxs counted
  · have counts := balanced.reasons
    simpa [computeVerificationReport, categoryTotal, countAll, Function.comp_def] using counts
  · have counts := balanced.phases
    simpa [computeVerificationReport, categoryTotal, countAll, Function.comp_def] using counts

end Axe.Verification

import Axe.EvmSend
import Axe.ProgramLog
import Axe.VerificationCalls

namespace Axe.LoadTesting

open Hardened
open Verification

/-!
# Retrying rate-limited submissions

A burst submission is repeated when its failure is taken for a rate limit, and it is
taken for one when its reason contains `429` anywhere.  The reason of a submission that
found no receipt quotes the hash of what was broadcast, so a transaction that waits in
a mempool can be taken for one that no node accepted.
-/

inductive TxFailureKind where
  | rateLimited
  | other
  deriving DecidableEq

structure TxFailure where
  reason : String
  kind : TxFailureKind
  deriving DecidableEq

def TxFailure.classified (reason : String) : TxFailure where
  reason := reason
  kind := if mentions reason "429" then .rateLimited else .other

/-- The failure looks like a limit of the rate. -/
def isRateLimited (metrics : TxMetrics) : Bool :=
  metrics.failure.any fun reason => (TxFailure.classified reason).kind = .rateLimited

def maxRateLimitRetries : Nat := 5

section Programs

variable {api : Interface} {Error : Type}

def rateLimitedFrom (submit : Program api Error TxMetrics) (sleep : Nat → Program api Error Unit) :
    Nat → Program api Error TxMetrics
  | 0 => submit
  | retries + 1 => do
    let result ← submit
    if result.isSuccess || !isRateLimited result then
      return result
    else do
      sleep (4 <<< (maxRateLimitRetries - (retries + 1)))
      rateLimitedFrom submit sleep retries

/-- Submit, and again after a pause while the rate is limited. -/
def rateLimited (submit : Program api Error TxMetrics) (sleep : Nat → Program api Error Unit) :
    Program api Error TxMetrics :=
  rateLimitedFrom submit sleep maxRateLimitRetries

end Programs

/-!
## Any submission
-/

/--
One submission: whether its transaction reached the mempool or the chain of some node,
which the retry does not see, and what it reports.
-/
structure Submission where
  reached : Bool
  metrics : TxMetrics
  deriving DecidableEq

def Submission.looksLimited (submission : Submission) : Bool := isRateLimited submission.metrics

inductive RetryCall where
  | submit
  | sleep (seconds : Nat)

def RetryCall.Reply : RetryCall → Type
  | submit => Submission
  | sleep _ => Unit

def retryInterface : Interface where
  Call := RetryCall
  Reply := RetryCall.Reply

def retriedSubmission : Program retryInterface String TxMetrics :=
  rateLimited
    (.call RetryCall.submit fun submission : Submission => .done submission.metrics)
    (fun seconds => .call (RetryCall.sleep seconds) fun _ => .done ())

def submissionOf : Exchange retryInterface → Option Submission
  | ⟨.submit, submission⟩ => some submission
  | ⟨.sleep _, _⟩ => none

def submissions (log : List (Exchange retryInterface)) : List Submission :=
  log.filterMap submissionOf

@[simp] theorem submissions_append (first second : List (Exchange retryInterface)) :
    submissions (first ++ second) = submissions first ++ submissions second := by
  simp [submissions]

/-- The submissions of a call: repetitions follow limited ones only. -/
inductive Retries : Nat → List Submission → Prop where
  | last
      (submission : Submission) :
      Retries 0 [submission]
  | final
      {retries : Nat}
      {submission : Submission}
      (ends : submission.looksLimited = false) :
      Retries (retries + 1) [submission]
  | again
      {retries : Nat}
      {submission : Submission}
      {rest : List Submission}
      (limited : submission.looksLimited = true)
      (others : Retries retries rest) :
      Retries (retries + 1) (submission :: rest)

def Unrepeated (calls : List Submission) : Prop :=
  ∀ before submission after, calls = before ++ submission :: after →
      submission.reached = true → submission.metrics.isSuccess = false → after = []

section Loop

variable {Local World : Type} {machine : Machine retryInterface Local World}
variable {here here' : Local} {world world' : World × List (Exchange retryInterface)}

theorem isSuccess_of_isRateLimited {metrics : TxMetrics} (limited : isRateLimited metrics = true) :
    metrics.isSuccess = false := by
  cases reason : metrics.failure with
  | none => simp [isRateLimited, reason] at limited
  | some text => simp [TxMetrics.isSuccess, reason]

theorem rateLimitedFrom_retries {retries : Nat} {result : Except String TxMetrics}
    (executes : Executes machine.logged (rateLimitedFrom
          (.call RetryCall.submit fun submission : Submission => .done submission.metrics)
          (fun seconds => .call (RetryCall.sleep seconds) fun _ => .done ()) retries)
        here world result here' world') :
    ∃ calls, submissions world'.2 = submissions world.2 ++ calls ∧ Retries retries calls := by
  induction retries generalizing here world with
  | zero =>
    rcases executes.call_cases with ⟨submission, _, between, submitted, ends⟩
    cases ends
    refine ⟨[submission], ?_, .last submission⟩
    rw [submitted, submissions_append]
    rfl
  | succ retries ih =>
    rcases executes.call_cases with ⟨submission, _, between, submitted, continues⟩
    have grown : submissions between.2 = submissions world.2 ++ ([submission] : List Submission) := by
      rw [submitted, submissions_append]
      rfl
    by_cases limited : isRateLimited submission.metrics = true
    · simp only [Program.bind, Program.bind_eq, isSuccess_of_isRateLimited limited, limited,
        Bool.not_true, Bool.or_self, Bool.false_eq_true, if_false] at continues
      rcases continues.call_cases with ⟨_, _, slept, paused, again⟩
      rcases ih again with ⟨calls, more, retried⟩
      refine ⟨submission :: calls, ?_, .again limited retried⟩
      rw [more, paused, submissions_append, grown, List.append_assoc, List.append_assoc]
      rfl
    · have final : isRateLimited submission.metrics = false := by simpa using limited
      simp only [Program.bind, final, Bool.not_false, Bool.or_true, if_true] at continues
      cases continues
      exact ⟨[submission], grown, .final final⟩

end Loop

theorem unrepeated_singleton (submission : Submission) : Unrepeated [submission] := by
  intro before found after split _ _
  rcases List.append_eq_singleton_iff.mp split.symm with ⟨_, rest⟩ | ⟨_, never⟩
  · exact (List.cons.inj rest).2
  · cases never

theorem unrepeated_cons {submission : Submission} {rest : List Submission} :
    Unrepeated (submission :: rest) ↔
      (submission.reached = true → submission.metrics.isSuccess = false → rest = []) ∧
        Unrepeated rest := by
  constructor
  · intro unrepeated
    refine ⟨unrepeated [] submission rest rfl, ?_⟩
    rintro before found after rfl
    exact unrepeated (submission :: before) found after rfl
  · rintro ⟨first, others⟩ before found after split
    cases before with
    | nil =>
      cases split
      exact first
    | cons earlier before =>
      cases split
      exact others before found after rfl

namespace Retries

variable {retries : Nat} {calls : List Submission}

theorem ne_nil (retried : Retries retries calls) : calls ≠ [] := by cases retried <;> simp

theorem unrepeated_again {submission : Submission} {rest : List Submission}
    (limited : submission.looksLimited = true) (others : Retries retries rest) :
    Unrepeated (submission :: rest) ↔ submission.reached = false ∧ Unrepeated rest := by
  rw [unrepeated_cons]
  have fails := isSuccess_of_isRateLimited limited
  simp [fails, others.ne_nil]

theorem unrepeated_iff (retried : Retries retries calls) : Unrepeated calls ↔
      ∀ submission ∈ calls.take retries,
        submission.reached = true → submission.looksLimited = false := by
  induction retried with
  | last submission => simp [unrepeated_singleton]
  | @final retries submission ends => simp [unrepeated_singleton, ends]
  | @again retries submission rest limited others ih =>
    rw [unrepeated_again limited others, ih, List.take_succ_cons, List.forall_mem_cons, limited]
    simp

theorem reached_le_one (retried : Retries retries calls) (unrepeated : Unrepeated calls) :
    calls.countP (fun submission => submission.reached) ≤ 1 := by
  induction retried with
  | last submission => exact List.countP_le_length
  | final ends => exact List.countP_le_length
  | again limited others ih =>
    rcases (unrepeated_again limited others).mp unrepeated with ⟨unreached, rest⟩
    rw [List.countP_cons_of_neg (by simp [unreached])]
    exact ih rest

end Retries

/--
For every submission and whatever it reports: the retry repeats no submission that
reached a node exactly if no failure before the last retry, of a submission that
reached a node, has a reason with `429` in it.  Then at most one transaction lands.
-/
theorem retries_land_once_iff
    {Local World : Type}
    {machine : Machine retryInterface Local World}
    {here here' : Local}
    {world : World}
    {world' : World × List (Exchange retryInterface)}
    {result : Except String TxMetrics}
    (executes : Executes machine.logged retriedSubmission here (world, []) result here' world') :
    (Unrepeated (submissions world'.2) ↔
        ∀ submission ∈ (submissions world'.2).take maxRateLimitRetries, submission.reached = true →
            ∀ reason ∈ submission.metrics.failure, mentions reason "429" = false) ∧
      (Unrepeated (submissions world'.2) →
        (submissions world'.2).countP (fun submission => submission.reached) ≤ 1) := by
  rcases rateLimitedFrom_retries executes with ⟨calls, shown, retried⟩
  have same : submissions world'.2 = calls := shown
  rw [same]
  refine ⟨?_, retried.reached_le_one⟩
  rw [retried.unrepeated_iff]
  have texts : ∀ submission : Submission, submission.looksLimited = false ↔
          ∀ reason ∈ submission.metrics.failure, mentions reason "429" = false := by
    intro submission
    cases reason : submission.metrics.failure with
    | none => simp [Submission.looksLimited, isRateLimited, reason]
    | some text => simp [Submission.looksLimited, isRateLimited, reason, TxFailure.classified]
  simp only [texts, maxRateLimitRetries]

namespace Sample

def anySubmission : Machine retryInterface Unit Unit where
  allowed := fun _ _ _ _ => True
  react := fun _ _ here world => (here, world)
  evolve := fun _ _ => False

def quotedHash : Digest :=
  [0x1b, 0x42, 0x9c, 0x07, 0xe5, 0x60, 0x33, 0xd1, 0x00, 0xa8, 0x5f, 0x71, 0xee, 0x0d, 0x3a, 0xbc,
    0x66, 0xf2, 0x18, 0x90, 0x4d, 0xc7, 0x25, 0x0b, 0xd8, 0x13, 0x7e, 0xa1, 0x5c, 0x02, 0xf9, 0x84]

def report (failure : Option String) : TxMetrics where
  signature := ""
  payloadHash := ""
  sourceAddress := ""
  sendInstant := none
  gmpDestinationChain := ""
  gmpDestinationAddress := ""
  failure := failure

/-- A transaction that waits in a mempool while the sender gives up on its receipt. -/
def unconfirmed : Submission :=
  ⟨true, report (some (EvmSend.noReceipt "source sendPayload" (some quotedHash)))⟩

def confirmed : Submission := ⟨true, report none⟩

theorem unconfirmed_looksLimited : unconfirmed.looksLimited = true := by
  have quoted : "429".toList <:+: (hexEncode quotedHash).toList :=
    mentions_iff.mp (by decide +kernel)
  have reason :
      mentions (EvmSend.noReceipt "source sendPayload" (some quotedHash)) "429" = true := by
    apply mentions_iff.mpr
    simp only [EvmSend.noReceipt, EvmSend.hashText, String.toList_append]
    rcases quoted with ⟨before, after, split⟩
    rw [← split]
    exact ⟨"source sendPayload: no receipt after 3 broadcast rounds (last tx 0x".toList ++ before,
      after ++ ")".toList, by simp⟩
  simp [Submission.looksLimited, unconfirmed, report, isRateLimited, TxFailure.classified, reason]

theorem executes_again {submission : Submission} (limited : submission.looksLimited = true) :
    Executes anySubmission.logged retriedSubmission () ((), []) (.ok confirmed.metrics) ()
      ((), [⟨.submit, submission⟩, ⟨.sleep 4, ()⟩, ⟨.submit, confirmed⟩]) := by
  apply Executes.call submission .refl trivial
  have fails := isSuccess_of_isRateLimited limited
  rw [Submission.looksLimited] at limited
  simp only [Program.bind, fails, limited, Bool.not_true, Bool.or_self, Bool.false_eq_true,
    if_false]
  exact .call () .refl trivial (.call confirmed .refl trivial .done)

def refused : Submission := { unconfirmed with reached := false }

end Sample

open Sample in
/-- The result at a run in which the first submission reached no node. -/
theorem refused_submission_is_repeated : ∃ world',
      Executes anySubmission.logged retriedSubmission () ((), []) (.ok confirmed.metrics) ()
          world' ∧
        submissions world'.2 = [refused, confirmed] ∧
        Unrepeated (submissions world'.2) := by
  have executes := @executes_again refused unconfirmed_looksLimited
  refine ⟨_, executes, rfl, (retries_land_once_iff executes).1.mpr ?_⟩
  intro submission member reached reason failed
  have listed : submission ∈ [refused, confirmed] := member
  rcases List.mem_pair.mp listed with rfl | rfl
  · cases reached
  · cases failed

open Sample in
/--
The sender found no receipt and its reason quotes a hash with `429` in it.  The
transaction waits in a mempool, and the retry submits another one.
-/
theorem quoted_hash_is_submitted_twice : ∃ world',
      Executes anySubmission.logged retriedSubmission () ((), []) (.ok confirmed.metrics) ()
          world' ∧
        submissions world'.2 = [unconfirmed, confirmed] ∧
        ¬ Unrepeated (submissions world'.2) ∧
        (submissions world'.2).countP (fun submission => submission.reached) = 2 := by
  refine ⟨_, executes_again unconfirmed_looksLimited, rfl, ?_, rfl⟩
  intro unrepeated
  have last := unrepeated [] unconfirmed [confirmed] rfl rfl rfl
  cases last

end Axe.LoadTesting

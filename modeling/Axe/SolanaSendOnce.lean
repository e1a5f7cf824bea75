import Axe.ServiceReplay
import Axe.SolanaSend
import Axe.SubmissionContract

namespace Axe.SolanaSend

open Hardened

/-!
# At most one transaction of a Solana call is processed

The cluster processes a transaction at most once, and only while its blockhash
is valid.  A node that has not seen a blockhash, or has seen it expire, reports
that it is not found; that says nothing about whether the transaction was
processed before.  Answers can be lost, and any time can pass between requests.

The call signs on a fresh blockhash when an expired one is reported.  That is
safe when no transaction of the call was broadcast before the report.  The call
does not know that, since the answer to an earlier submission can be lost.
-/

def slotOf (tx : Transaction) : Transaction := tx

/-- The cluster, its valid and expired blockhashes, and those that the node sees. -/
structure Cluster where
  network : Network slotOf
  valid : List Digest
  expired : List Digest
  seen : List Digest

namespace Cluster

/-- What happens to the cluster without the call. -/
inductive Move where
  | network (step : Network.Move Transaction)
  | produce (blockhash : Digest)
  | expire (blockhash : Digest)
  | see (blockhashes : List Digest)
  deriving DecidableEq

def processed : Network.Move Transaction → Option Transaction
  | .land tx _ => some tx
  | .foreignLands tx _ => some tx
  | _ => none

def expire (cluster : Cluster) (blockhash : Digest) : Cluster where
  network :=
    { cluster.network with
      waiting := cluster.network.waiting.filter fun tx => tx.blockhash ≠ blockhash }
  valid := cluster.valid.filter (· ≠ blockhash)
  expired := blockhash :: cluster.expired
  seen := cluster.seen.filter (· ≠ blockhash)

def move (cluster : Cluster) : Move → Option Cluster
  | .network step =>
    if ∀ tx ∈ processed step, tx.blockhash ∈ cluster.valid then
      (cluster.network.move step).map fun network => { cluster with network := network }
    else
      none
  | .produce blockhash =>
    if blockhash ∈ cluster.expired then
      none
    else
      some { cluster with valid := blockhash :: cluster.valid }
  | .expire blockhash => some (cluster.expire blockhash)
  | .see blockhashes =>
    if ∀ blockhash ∈ blockhashes, blockhash ∈ cluster.valid then
      some { cluster with seen := blockhashes }
    else
      none

theorem move_network {cluster later : Cluster} {step : Move}
    (moved : cluster.move step = some later) :
    Network.Drift cluster.network later.network := by
  cases step with
  | network inner =>
    obtain ⟨_, moved⟩ := Option.ite_none_right_eq_some.mp moved
    obtain ⟨network, movedInner, rfl⟩ := Option.map_eq_some_iff.mp moved
    exact Network.move_drift movedInner
  | produce blockhash =>
    obtain ⟨_, same⟩ := Option.ite_none_left_eq_some.mp moved
    cases same
    exact Network.Drift.refl _
  | expire blockhash =>
    cases moved
    apply Network.Drift.requeue
    · rfl
    · rfl
    · intro tx member
      exact .inl (List.mem_of_mem_filter member)
  | see blockhashes =>
    obtain ⟨_, same⟩ := Option.ite_none_right_eq_some.mp moved
    cases same
    exact Network.Drift.refl _

end Cluster

/--
How a node answers a submission.  It broadcasts only what has a blockhash that
it sees as valid and was not processed.  A report about the blockhash is made
when the node does not see it; a report about an earlier processing is made
while the blockhash is valid.  Any other error tells nothing.
-/
def SubmissionAnswer (cluster : Cluster) (tx : Transaction)
    (reply : Bool × Except String Unit) : Prop :=
  (reply.1 = true → tx.blockhash ∈ cluster.seen ∧ ¬ cluster.network.Uses tx) ∧
    match reply.2 with
    | .ok _ => reply.1 = true
    | .error error =>
      (isBlockhashExpired error = true → reply.1 = false ∧ tx.blockhash ∉ cluster.seen) ∧
        (isAlreadyProcessed error = true → tx.blockhash ∈ cluster.seen ∧ cluster.network.Uses tx)

instance SubmissionAnswer.decidable (cluster : Cluster) (tx : Transaction) :
    (reply : Bool × Except String Unit) → Decidable (SubmissionAnswer cluster tx reply)
  | (_, .ok _) => inferInstanceAs (Decidable (_ ∧ _))
  | (_, .error _) => inferInstanceAs (Decidable (_ ∧ _))

def ConfirmationAnswer (cluster : Cluster) (tx : Transaction) : Except String Unit → Prop
  | .ok _ => cluster.network.Uses tx
  | .error error => isBlockhashExpired error = true → tx.blockhash ∉ cluster.seen

def BlockhashAnswer (cluster : Cluster) : Except String Digest → Prop
  | .ok blockhash => blockhash ∈ cluster.valid
  | .error _ => True

def StatusAnswer (signatureOf : Transaction → Bytes) (cluster : Cluster)
    (signature : Bytes) : Except String (Option (Except String Unit)) → Prop
  | .ok (some result) =>
    ∃ entry ∈ cluster.network.landed, signatureOf entry.1 = signature ∧ entry.2 = result.isOk
  | _ => True

/-- Nobody submits a transaction of the call before the call has signed it. -/
def SigningAnswer (cluster : Cluster) (tx : Transaction) : Prop :=
  tx ∈ cluster.network.ours ∨ cluster.network.Absent tx

/-- How the node and the cluster answer each request. -/
def answers (signatureOf : Transaction → Bytes) (cluster : Cluster) : (op : Call) → op.Reply → Prop
  | .getLatestBlockhash, reply => BlockhashAnswer cluster reply
  | .sendTransaction tx, reply => SubmissionAnswer cluster tx reply
  | .confirmTransaction tx, reply => ConfirmationAnswer cluster tx reply
  | .getSignatureStatus signature, reply => StatusAnswer signatureOf cluster signature reply
  | .sign tx, _ => SigningAnswer cluster tx
  | .simulateTransaction _, _ => True
  | .sleep, _ => True

/-- What an answer does; the flag says whether a transaction of the call was broadcast. -/
def reacts : (op : Call) → op.Reply → Bool → Cluster → Bool × Cluster
  | .sign tx, _, broadcast, cluster =>
    (broadcast,
      { cluster with
        network := { cluster.network with ours := cluster.network.ours ++ [tx] } })
  | .sendTransaction tx, (true, _), _, cluster =>
    (true, { cluster with network := cluster.network.enqueue tx })
  | _, _, broadcast, cluster => (broadcast, cluster)

/-- A condition on answers, given whether a transaction of the call was broadcast. -/
abbrev Condition := Bool → (op : Call) → op.Reply → Prop

/-- Every answer is possible. -/
def anyAnswer : Condition := fun _ _ _ => True

/-- No blockhash is reported as expired once a transaction of the call was broadcast. -/
def Timely : Condition
  | broadcast, .sendTransaction _, (_, .error error) =>
    isBlockhashExpired error = true → broadcast = false
  | broadcast, .confirmTransaction _, .error error =>
    isBlockhashExpired error = true → broadcast = false
  | _, _, _ => True

/-- The call, the node and the cluster, with the answers that a condition leaves. -/
def solanaMachine (signatureOf : Transaction → Bytes) (condition : Condition) :
    Machine solanaInterface Bool Cluster where
  allowed := fun broadcast cluster op reply =>
    answers signatureOf cluster op reply ∧ condition broadcast op reply
  react := reacts
  evolve := fun cluster later => ∃ step, cluster.move step = some later

def anyOutcome (_ : Bool) : Prop := True

section Contracts

variable {signatureOf : Transaction → Bytes} {condition : Condition}
variable {Value : Type} {broadcast : Bool} {cluster : Cluster}

/-- The contract of a part of the call, with timely answers. -/
abbrev Steps
    (signatureOf : Transaction → Bytes)
    (program : Solana Value)
    (ends : Value → Bool → Cluster → Prop)
    (broadcast : Bool)
    (cluster : Cluster) : Prop :=
  Network.Submits anyOutcome (solanaMachine signatureOf Timely) Cluster.network program
    ends (fun _ _ _ => True) broadcast cluster

theorem cluster_surrounds :
    Network.Surrounds (solanaMachine signatureOf condition) Cluster.network :=
  fun ⟨_, moved⟩ => Cluster.move_network moved

/-- As long as nothing was broadcast, no transaction of the call is processed or in flight. -/
def Untouched (broadcast : Bool) (cluster : Cluster) : Prop :=
  broadcast = false → ∀ old ∈ cluster.network.ours, cluster.network.Absent old

/-- The transaction was signed last, and the call is untouched until it is broadcast. -/
def Sending (tx : Transaction) (broadcast : Bool) (cluster : Cluster) : Prop :=
  cluster.network.Latest tx ∧ Untouched broadcast cluster

/-- After an attempt, an expired blockhash is reported only for what was not broadcast. -/
def Attempted
    (tx : Transaction)
    (sent : Except String Bytes)
    (broadcast : Bool)
    (cluster : Cluster) : Prop :=
  Sending tx broadcast cluster ∧
    ∀ error, sent = .error error → isBlockhashExpired error = true → broadcast = false

theorem Untouched.move
    {later : Cluster}
    {step : Cluster.Move}
    (untouched : Untouched broadcast cluster)
    (moved : cluster.move step = some later) :
    Untouched broadcast later := by
  intro fresh old own
  have drifts := Cluster.move_network moved
  rw [drifts.ours] at own
  exact (untouched fresh old own).drift own drifts

theorem idle_stable :
    Network.Stable (solanaMachine signatureOf condition)
      (fun broadcast cluster => broadcast = false ∧ Untouched broadcast cluster) :=
  fun _ _ _ ⟨_, moved⟩ idle => ⟨idle.1, idle.2.move moved⟩

variable {tx : Transaction}

theorem sending_stable : Network.Stable (solanaMachine signatureOf condition) (Sending tx) := by
  rintro broadcast cluster later ⟨step, moved⟩ ⟨latest, untouched⟩
  exact ⟨latest.drift (Cluster.move_network moved), untouched.move moved⟩

theorem steps_awaitConfirmation
    {sent : Except String Unit}
    (sending : Sending tx broadcast cluster)
    (timely : ∀ error, sent = .error error → isBlockhashExpired error = true →
        broadcast = false) :
    Steps signatureOf (awaitConfirmation signatureOf tx sent) (Attempted tx)
      broadcast cluster := by
  cases sent with
  | error error =>
    refine ⟨sending, ?_⟩
    intro shown isShown
    cases isShown
    exact timely error rfl
  | ok =>
    apply Network.Submits.ask_bind sending_stable (fun _ _ _ => rfl) sending
    rintro moved confirmed sendingNow ⟨_, isTimely⟩
    cases confirmed with
    | ok => exact ⟨sendingNow, fun _ absurd => by cases absurd⟩
    | error error =>
      refine ⟨sendingNow, ?_⟩
      intro shown isShown
      cases isShown
      exact isTimely

theorem steps_sendAndConfirmTransaction (sending : Sending tx broadcast cluster) :
    Steps signatureOf (sendAndConfirmTransaction signatureOf tx) (Attempted tx)
      broadcast cluster := by
  apply Meets.perform_bind
  rintro moved evolved ⟨accepted, answer⟩ ⟨allowed, isTimely⟩
  have sendingNow := sending_stable.evolves broadcast evolved sending
  cases accepted with
  | false =>
    refine ⟨.refl moved.network, steps_awaitConfirmation sendingNow ?_⟩
    intro error isError expired
    subst isError
    exact isTimely expired
  | true =>
    refine ⟨.unsigned (Network.enqueue_step sendingNow.1) rfl,
      steps_awaitConfirmation ⟨sendingNow.1, fun absurd => by cases absurd⟩ ?_⟩
    intro error isError expired
    subst isError
    -- A node that reports an expired blockhash does not broadcast.
    have refused := (allowed.2.1 expired).1
    cases refused

theorem only_landedStatus (signature : Bytes) :
    (landedStatus signature).Only (solanaMachine signatureOf condition).Reads := by
  apply Program.Only.retryTimes
  · refine ⟨fun _ _ _ => rfl, ?_⟩
    rintro (_ | _ | _) <;> trivial
  · exact ⟨fun _ _ _ => rfl, fun _ => trivial⟩

theorem only_resolve (label error : String) (tx : Transaction) :
    (resolve signatureOf label error tx).Only (solanaMachine signatureOf condition).Reads := by
  have diagnosed : (withDiagnostics label error tx).Only
      (solanaMachine signatureOf condition).Reads :=
    ⟨fun _ _ _ => rfl, fun _ => trivial⟩
  unfold resolve
  split
  · apply (only_landedStatus _).bind
    rintro (_ | _ | _)
    · exact diagnosed
    · trivial
    · trivial
  · exact diagnosed

theorem only_getLatestBlockhash :
    (retryBlocking (fun _ => true) (ask .getLatestBlockhash)).Only
      (solanaMachine signatureOf condition).Reads := by
  apply Program.Only.retryTimes
  · exact ⟨fun _ _ _ => rfl, fun _ => trivial⟩
  · exact ⟨fun _ _ _ => rfl, fun _ => trivial⟩

theorem Untouched.signed (untouched : Untouched broadcast cluster)
    (new : SigningAnswer cluster tx) :
    Untouched broadcast
      { cluster with
        network := { cluster.network with ours := cluster.network.ours ++ [tx] } } := by
  intro fresh old own
  rcases List.mem_append.mp own with before | isNew
  · exact untouched fresh old before
  · rw [List.mem_singleton.mp isNew]
    rcases new with signedBefore | absent
    · exact untouched fresh tx signedBefore
    · exact absent

/-- A round starts when nothing was broadcast; so does the round after an expired blockhash. -/
theorem steps_sendRounds
    (label : String)
    (instructions : List Instruction)
    (payer : Bytes)
    (rebuilds : Nat)
    (idle : broadcast = false ∧ Untouched broadcast cluster) :
    Steps signatureOf (sendRounds signatureOf label instructions payer rebuilds)
      (fun _ _ _ => True) broadcast cluster := by
  induction rebuilds generalizing broadcast cluster with
  | zero => trivial
  | succ rebuilds ih =>
    apply Meets.andThen (Network.Submits.quietly idle_stable only_getLatestBlockhash idle)
    · exact fun _ _ _ _ => trivial
    · intro fetched broadcast now idleNow
      cases fetched with
      | error error => trivial
      | ok blockhash =>
        apply Meets.perform_bind
        rintro moved evolved _ ⟨new, _⟩
        have idleMoved := idle_stable.evolves broadcast evolved idleNow
        refine ⟨.sign fun old own => .inr (idleMoved.2 idleMoved.1 old own).closed, ?_⟩
        apply Meets.andThen
        · apply Network.Submits.retry
          · exact fun _ _ sending => steps_sendAndConfirmTransaction sending
          · exact fun _ _ _ attempted => attempted.1
          · intro _ _ sending
            exact Network.Submits.ask sending_stable (fun _ _ _ => rfl) sending
              fun _ _ stays _ => stays
          · exact ⟨Network.latest_signed _ moved.network, idleMoved.2.signed new⟩
        · exact fun _ _ _ ends => ends
        · intro sent broadcast later attempted
          cases sent with
          | ok signature => trivial
          | error error =>
            dsimp only
            split
            · rename_i again
              have expired := (Bool.and_eq_true_iff.mp again).1
              exact ih ⟨attempted.2 error rfl expired, attempted.1.2⟩
            · exact (Network.Submits.quietly sending_stable (only_resolve label error _)
                attempted.1).weaken (fun _ _ _ _ => trivial) (fun _ _ _ _ => trivial)

end Contracts

section Once

variable {signatureOf : Transaction → Bytes}

/-- The call before its first request. -/
def callStart
    (signatureOf : Transaction → Bytes)
    (label : String)
    (instructions : List Instruction)
    (payer : Bytes)
    (cluster : Cluster) :
    Config solanaInterface String Bool Cluster :=
  ⟨.busy ((signSendConfirm signatureOf label instructions payer).bind fun _ => .done ()),
    false, cluster⟩

/-- A run of one call in which all answers meet a condition. -/
def SendRun
    (signatureOf : Transaction → Bytes)
    (condition : Condition)
    (start last : Config solanaInterface String Bool Cluster) : Prop :=
  (Service.once (solanaMachine signatureOf condition)).Runs Service.Permit.anything start last

/--
For all arguments and all behaviour of nodes and cluster: if no node reports an
expired blockhash after a transaction of the call was broadcast, then at no
moment more than one of its transactions was processed.
-/
theorem at_most_one_is_processed
    {label : String}
    {instructions : List Instruction}
    {payer : Bytes}
    {cluster : Cluster}
    {last : Config solanaInterface String Bool Cluster}
    (run : SendRun signatureOf Timely
      (callStart signatureOf label instructions payer cluster) last)
    (fresh : cluster.network.ours = [])
    {first second : Transaction}
    (firstOwn : first ∈ last.world.network.ours)
    (secondOwn : second ∈ last.world.network.ours)
    (firstProcessed : ∃ outcome, (first, outcome) ∈ last.world.network.landed)
    (secondProcessed : ∃ outcome, (second, outcome) ∈ last.world.network.landed) :
    first = second := by
  have untouched : Untouched false cluster := by simp [Untouched, fresh]
  have submits : Steps signatureOf
        ((signSendConfirm signatureOf label instructions payer).bind fun _ => .done ())
        (fun _ _ _ => True) false cluster := by
    apply Meets.seq
      (steps_sendRounds label instructions payer maxBlockhashRebuilds ⟨rfl, untouched⟩)
    exact fun _ _ _ _ => trivial
  have counted : ∀ {tx}, (∃ outcome, (tx, outcome) ∈ last.world.network.landed) →
        Network.Counted anyOutcome last.world.network tx := by
    rintro tx ⟨outcome, processed⟩
    exact ⟨outcome, processed, trivial⟩
  exact Network.at_most_once_of_submits cluster_surrounds submits run fresh firstOwn
    secondOwn (counted firstProcessed) (counted secondProcessed)

end Once

namespace Sample

def sampleSignature (tx : Transaction) : Bytes := tx.blockhash

/-- How a node answers: with what is true, or too late. -/
inductive Manner where
  | prompt
  | lost

def submit (cluster : Cluster) (tx : Transaction) : Manner → Bool × Except String Unit
  | .prompt =>
    if tx.blockhash ∉ cluster.seen then
      (false, .error "Blockhash not found")
    else if cluster.network.Uses tx then
      (false, .error "This transaction has already been processed")
    else
      (true, .ok ())
  | .lost =>
    (decide (tx.blockhash ∈ cluster.seen ∧ ¬ cluster.network.Uses tx), .error "request timed out")

def checkedReply (manner : Manner) (cluster : Cluster) : (op : Call) → Option op.Reply
  | .getLatestBlockhash =>
    match cluster.valid with
    | blockhash :: _ => some (Except.ok blockhash)
    | [] => none
  | .sendTransaction tx =>
    if SubmissionAnswer cluster tx (submit cluster tx manner) then
      some (submit cluster tx manner)
    else
      none
  | .confirmTransaction tx => if cluster.network.Uses tx then some (Except.ok ()) else none
  | .getSignatureStatus _ => none
  | .simulateTransaction _ => none
  | .sign tx => if cluster.network.Absent tx then some () else none
  | .sleep => some ()

theorem checkedReply_allowed {manner : Manner} {cluster : Cluster} {op : Call}
    {answer : op.Reply} (replied : checkedReply manner cluster op = some answer) :
    answers sampleSignature cluster op answer := by
  cases op with
  | getLatestBlockhash =>
    simp only [checkedReply] at replied
    split at replied
    · rename_i blockhash rest newest
      cases replied
      simp [answers, BlockhashAnswer, newest]
    · cases replied
  | sendTransaction tx =>
    obtain ⟨allowed, same⟩ := Option.ite_none_right_eq_some.mp replied
    cases same
    exact allowed
  | confirmTransaction tx =>
    obtain ⟨processed, same⟩ := Option.ite_none_right_eq_some.mp replied
    cases same
    exact processed
  | getSignatureStatus signature => cases replied
  | sign tx => exact .inr (Option.ite_none_right_eq_some.mp replied).1
  | simulateTransaction tx => trivial
  | sleep => trivial

instance decidableAnyAnswer (broadcast : Bool) (op : Call) (reply : op.Reply) :
    Decidable (anyAnswer broadcast op reply) :=
  .isTrue trivial

instance decidableTimely (broadcast : Bool) :
    (op : Call) → (reply : op.Reply) → Decidable (Timely broadcast op reply)
  | .sendTransaction _, (_, .error _) => inferInstanceAs (Decidable (_ → _))
  | .sendTransaction _, (_, .ok _) => .isTrue trivial
  | .confirmTransaction _, .error _ => inferInstanceAs (Decidable (_ → _))
  | .confirmTransaction _, .ok _ => .isTrue trivial
  | .getLatestBlockhash, _ => .isTrue trivial
  | .sign _, _ => .isTrue trivial
  | .getSignatureStatus _, _ => .isTrue trivial
  | .simulateTransaction _, _ => .isTrue trivial
  | .sleep, _ => .isTrue trivial

section Conditions

variable (condition : Condition)
variable [∀ (broadcast : Bool) (op : Call) (reply : op.Reply),
  Decidable (condition broadcast op reply)]

/-- The answer in some manner, if it meets the condition. -/
def conditionReply (manner : Manner) (broadcast : Bool) (cluster : Cluster) (op : Call) :
    Option op.Reply :=
  (checkedReply manner cluster op).filter fun reply => decide (condition broadcast op reply)

theorem conditionReply_allowed
    {manner : Manner}
    {broadcast : Bool}
    {cluster : Cluster}
    {op : Call}
    {answer : op.Reply}
    (replied : conditionReply condition manner broadcast cluster op = some answer) :
    answers sampleSignature cluster op answer ∧ condition broadcast op answer := by
  obtain ⟨found, meets⟩ := Option.filter_eq_some_iff.mp replied
  exact ⟨checkedReply_allowed found, of_decide_eq_true meets⟩

def responder : @Responder solanaInterface String Bool Cluster Empty
      (Service.once (solanaMachine sampleSignature condition)) Cluster.Move Manner where
  move := fun step cluster => cluster.move step
  move_sound := fun moved => ⟨_, moved⟩
  reply := fun manner broadcast cluster op =>
    conditionReply condition manner broadcast cluster op
  reply_sound := fun replied => conditionReply_allowed condition replied

end Conditions

def newCluster : Cluster where
  network := ⟨[], [], [], List.nodup_nil⟩
  valid := [[1]]
  expired := []
  seen := [[1]]

def transferOn (blockhash : Digest) : Transaction := ⟨[⟨[7], [], []⟩], [5], blockhash⟩

def transferStart : Config solanaInterface String Bool Cluster :=
  callStart sampleSignature "transfer" [⟨[7], [], []⟩] [5] newCluster

/-- The first blockhash expires and the node sees the second one. -/
def renewed : List (Event Cluster.Move Empty Manner) :=
  [.world (.expire [1]), .world (.produce [2]), .world (.see [[2]])]

end Sample

open Sample in
/--
The result at a run in which the blockhash expires before the first transaction
is submitted, and the second one is processed.
-/
theorem at_most_one_is_processed_after_expiry : ∃ last : Config solanaInterface String Bool Cluster,
      SendRun sampleSignature Timely transferStart last ∧
        last.world.network.ours = [transferOn [1], transferOn [2]] ∧
        (∃ outcome, (transferOn [2], outcome) ∈ last.world.network.landed) ∧
        ∀ first ∈ last.world.network.ours,
          (∃ outcome, (first, outcome) ∈ last.world.network.landed) →
            first = transferOn [2] := by
  obtain ⟨last, run, passed⟩ := @Responder.exists_run _ _ _ _ _ _ _ _ (responder Timely)
      Service.Permit.anything _ transferStart
      (.answer .prompt 2 :: renewed ++
        [.answer .prompt 4, .world (.network (.land (transferOn [2]) true))])
      (fun last =>
        decide (last.world.network.ours = [transferOn [1], transferOn [2]] ∧
            (transferOn [2], true) ∈ last.world.network.landed))
      (by decide +kernel)
  obtain ⟨ours, processed⟩ := of_decide_eq_true passed
  refine ⟨last, run, ours, ⟨true, processed⟩, ?_⟩
  intro first own firstProcessed
  exact at_most_one_is_processed run rfl own (by simp [ours]) firstProcessed ⟨true, processed⟩

open Sample in
/--
The answer to the first submission is lost, the transaction is processed and its
blockhash expires.  The same transaction is sent again, the node does not find
the blockhash, the call signs on a fresh one, and that is processed too.
-/
theorem two_are_processed : ∃ last : Config solanaInterface String Bool Cluster,
      SendRun sampleSignature anyAnswer transferStart last ∧
        transferOn [1] ∈ last.world.network.ours ∧
        transferOn [2] ∈ last.world.network.ours ∧ transferOn [1] ≠ transferOn [2] ∧
        (∃ outcome, (transferOn [1], outcome) ∈ last.world.network.landed) ∧
        ∃ outcome, (transferOn [2], outcome) ∈ last.world.network.landed := by
  obtain ⟨last, run, passed⟩ :=
    @Responder.exists_run _ _ _ _ _ _ _ _ (responder anyAnswer) Service.Permit.anything _
      transferStart
      (.answer .prompt 2 :: .answer .lost 2 ::
        .world (.network (.land (transferOn [1]) true)) :: renewed ++
        [.answer .prompt 4, .world (.network (.land (transferOn [2]) true))])
      (fun last =>
        decide (transferOn [1] ∈ last.world.network.ours ∧
            transferOn [2] ∈ last.world.network.ours ∧
            (transferOn [1], true) ∈ last.world.network.landed ∧
            (transferOn [2], true) ∈ last.world.network.landed))
      (by decide +kernel)
  obtain ⟨firstOwn, secondOwn, firstProcessed, secondProcessed⟩ := of_decide_eq_true passed
  exact ⟨last, run, firstOwn, secondOwn, by decide +kernel, ⟨true, firstProcessed⟩,
    ⟨true, secondProcessed⟩⟩

end Axe.SolanaSend

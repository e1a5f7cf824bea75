import Axe.EvmSend
import Axe.SamplePlatform
import Axe.ServiceReplay
import Axe.SubmissionContract

namespace Axe.EvmSend

open Hardened

/-!
# At most one transaction of a send is mined

The chain mines at most one transaction for a sender and a nonce.  The mempool
keeps one as well, and takes another one only if its price is high enough.  Any
request can fail, also after a node has accepted what it was sent.

The call signs with another nonce when it believes that its transactions cannot
be mined any more.  It can be wrong: a replacement whose tip is not raised is
rejected in favour of the transaction that it was to replace.  It is right when
the fees that are filled in can be doubled, one endpoint answers all lookups of
hashes, and no mempool takes an envelope without saying so after its nonce was
reported as held.  These are conditions on the answers alone.
-/

/-- The sender and the nonce: at most one transaction with them is mined. -/
def slotOf (lib : Platform) (envelope : Envelope) : Option Address × U64 :=
  (lib.recoverAddress envelope, envelope.nonce)

/-- The chain and the mempool, and what the call has signed. -/
abbrev Pool (lib : Platform) := Network (slotOf lib)

/-- The fees that a request presets are those of the envelope. -/
def KeepsFees (request : TransactionRequest) (envelope : Envelope) : Prop :=
  (∀ price ∈ request.gasPrice, envelope.gasPrice = some price) ∧ (request.gasPrice = none →
      (∀ fee ∈ request.maxFeePerGas, envelope.maxFeePerGas = fee) ∧
        ∀ tip ∈ request.maxPriorityFeePerGas, envelope.maxPriorityFeePerGas = some tip)

/-- The tip of an envelope; one with a gas price pays it as cap and as tip. -/
def tipCap (envelope : Envelope) : U128 :=
  envelope.maxPriorityFeePerGas.getD envelope.maxFeePerGas

/-- The fees are positive, and doubling them does not saturate. -/
def Priced (envelope : Envelope) : Prop :=
  (0 < envelope.maxFeePerGas.toNat ∧ envelope.maxFeePerGas.toNat * 2 < 2 ^ 128) ∧
    0 < (tipCap envelope).toNat ∧ (tipCap envelope).toNat * 2 < 2 ^ 128

/-- Both fees of one envelope are at least twice those of the other. -/
def Doubles (new old : Envelope) : Prop :=
  2 * old.maxFeePerGas.toNat ≤ new.maxFeePerGas.toNat ∧
    2 * (tipCap old).toNat ≤ (tipCap new).toNat

/-- The rule of the mempool for replacements takes doubled fees for a higher price. -/
def AcceptsDoubled (outbids : Envelope → Envelope → Bool) : Prop :=
  ∀ {new old}, Priced old → Doubles new old → outbids new old = true

section Answers

variable {lib : Platform}

/-- The mempool keeps at most one transaction for a sender and a nonce. -/
def Tidy (pool : Pool lib) : Prop := (pool.waiting.map (slotOf lib)).Nodup

/-- A transaction with the hash is mined or pooled. -/
def Known (pool : Pool lib) (hash : Digest) : Prop :=
  (∃ entry ∈ pool.landed, lib.txHash entry.1 = hash) ∨
    ∃ envelope ∈ pool.waiting, lib.txHash envelope = hash

/-- A transaction with the hash is mined, with this outcome. -/
def Mined (pool : Pool lib) (hash : Digest) (outcome : Bool) : Prop :=
  ∃ entry ∈ pool.landed, lib.txHash entry.1 = hash ∧ entry.2 = outcome

instance (pool : Pool lib) (hash : Digest) : Decidable (Known pool hash) :=
  inferInstanceAs (Decidable (_ ∨ _))

instance (pool : Pool lib) (hash : Digest) (outcome : Bool) : Decidable (Mined pool hash outcome) :=
  inferInstanceAs (Decidable (∃ entry ∈ _, _))

/--
The messages of a node mean what the sender takes them to mean.  A node that
reports a used nonce does so before it compares prices.
-/
def RejectionTrue (outbids : Envelope → Envelope → Bool) (pool : Pool lib)
    (envelope : Envelope) (error : String) : Prop :=
  (sendErrorMayMeanLanded error = true →
      pool.Uses (slotOf lib envelope) ∨ envelope ∈ pool.waiting) ∧
    (nonceHeldByPooledTx error = true →
      ¬ pool.Uses (slotOf lib envelope) ∧ ∃ other ∈ pool.waiting,
        other ≠ envelope ∧ slotOf lib other = slotOf lib envelope ∧ outbids envelope other = false)

instance (outbids : Envelope → Envelope → Bool) (pool : Pool lib) (envelope : Envelope)
    (error : String) :
    Decidable (RejectionTrue outbids pool envelope error) :=
  inferInstanceAs (Decidable (_ ∧ _))

/--
How a mempool and a node answer a broadcast.  A transaction is pooled only while
its nonce is unused.  An error that is no rejection tells nothing.
-/
def BroadcastAnswer (outbids : Envelope → Envelope → Bool) (pool : Pool lib)
    (envelope : Envelope) (reply : Bool × Except String Unit) : Prop :=
  (reply.1 = true → ¬ pool.Uses (slotOf lib envelope)) ∧
    match reply.2 with
    | .ok _ => reply.1 = true
    | .error error =>
      RejectionTrue outbids pool envelope error ∧
        (sendErrorMayMeanLanded error = true ∨ nonceHeldByPooledTx error = true → reply.1 = false)

instance BroadcastAnswer.decidable (outbids : Envelope → Envelope → Bool) (pool : Pool lib)
    (envelope : Envelope) :
    (reply : Bool × Except String Unit) → Decidable (BroadcastAnswer outbids pool envelope reply)
  | (_, .ok _) => inferInstanceAs (Decidable (_ ∧ _))
  | (_, .error _) => inferInstanceAs (Decidable (_ ∧ _))

/-- A lookup that is answered tells whether the hash is known. -/
def LookupAnswer (pool : Pool lib) (hash : Digest) : Option Bool → Prop
  | none => True
  | some known => known = true ↔ Known pool hash

/-- A receipt is that of a mined transaction. -/
def ReceiptAnswer (pool : Pool lib) (hash : Digest) : Option (Option Receipt) → Prop
  | none => True
  | some none => ∀ outcome, ¬ Mined pool hash outcome
  | some (some receipt) => receipt.transactionHash = hash ∧ Mined pool hash receipt.status

instance ReceiptAnswer.decidable (pool : Pool lib) (hash : Digest) :
    (reply : Option (Option Receipt)) → Decidable (ReceiptAnswer pool hash reply)
  | none => .isTrue trivial
  | some none => inferInstanceAs (Decidable (∀ _, _))
  | some (some _) => inferInstanceAs (Decidable (_ ∧ _))

/-- What is signed fills in the request and keeps its fees. -/
def SigningAnswer (signer : Address) (request : TransactionRequest) : Except String Envelope → Prop
  | .error _ => True
  | .ok envelope => Fills lib signer request envelope ∧ KeepsFees request envelope

/-- How the endpoints and the chain answer each request. -/
def answers (signer : Address) (outbids : Envelope → Envelope → Bool) (pool : Pool lib) :
    (op : Call) → op.Reply → Prop
  | .fillAndSign _ request, reply => @SigningAnswer lib signer request reply
  | .sendRawTransaction _ envelope, reply => BroadcastAnswer outbids pool envelope reply
  | .transactionByHash _ hash, reply => LookupAnswer pool hash reply
  | .transactionReceipt _ hash, reply => ReceiptAnswer pool hash reply
  | .polls, _ => True
  | .sleep, _ => True

/-- Whether the nonce of the envelope that was signed last has been reported as held. -/
def reported (held : Bool) : Except String Unit → Bool
  | .ok _ => held
  | .error error => held || nonceHeldByPooledTx error

/-- What an answer does to the pool, and what it reports of the nonce. -/
def reacts : (op : Call) → op.Reply → Bool → Pool lib → Bool × Pool lib
  | .fillAndSign _ _, .ok envelope, _, pool =>
    (false, { pool with ours := pool.ours ++ [envelope] })
  | .sendRawTransaction _ envelope, reply, held, pool =>
    (reported held reply.2, if reply.1 then pool.enqueue envelope else pool)
  | _, _, held, pool => (held, pool)

end Answers

/-- A condition on answers, in the light of what was reported before. -/
abbrev Condition := Bool → (op : Call) → op.Reply → Prop

/-- Every answer is possible. -/
def anyAnswer : Condition := fun _ _ _ => True

/--
The fees of what is signed can be doubled.  A mempool that takes an envelope
after its nonce was reported as held says so.  One endpoint answers all lookups.
-/
def Fair (lookups : Nat) : Condition
  | _, .fillAndSign _ _, .ok envelope => Priced envelope
  | held, .sendRawTransaction _ _, (true, .error _) => held = false
  | _, .transactionByHash endpoint _, none => endpoint ≠ lookups
  | _, _, _ => True

/-- The call, the endpoints and the chain, with the answers that a condition leaves. -/
def sendMachine
    (lib : Platform)
    (signer : Address)
    (outbids : Envelope → Envelope → Bool)
    (condition : Condition) :
    Machine sendInterface Bool (Pool lib) where
  allowed := fun held pool op reply =>
    answers signer outbids pool op reply ∧ condition held op reply
  react := reacts
  evolve := fun pool later => ∃ step, pool.move step = some later

section Fees

variable {tx : TransactionRequest} {old middle new : Envelope}

theorem Doubles.trans (second : Doubles new middle) (first : Doubles middle old) :
    Doubles new old := by
  unfold Doubles at *
  omega

theorem doubled_toNat {fee : U128} (small : fee.toNat * 2 < 2 ^ 128) :
    (doubled fee).toNat = 2 * fee.toNat := by
  rw [doubled, if_pos small, BitVec.toNat_mul]
  have two : (2 : U128).toNat = 2 := rfl
  rw [two, Nat.mod_eq_of_lt small, Nat.mul_comm]

/-- A request for a replacement is filled in with doubled fees. -/
theorem doubles_of_replacement
    {nonceOverride gasOverride : Option U64}
    (priced : Priced old)
    (sameKind : old.gasPrice = none → tx.gasPrice = none)
    (kept : KeepsFees
      (roundRequest tx nonceOverride gasOverride (some (.doubledFrom old))) new) :
    Doubles new old := by
  obtain ⟨⟨_, capSmall⟩, _, tipSmall⟩ := priced
  unfold Doubles
  cases fees : old.fees with
  | price price =>
    have isPrice : old.gasPrice = some price := by simp [Envelope.gasPrice, fees]
    have cap : old.maxFeePerGas = price := by simp [Envelope.maxFeePerGas, fees]
    have tip : tipCap old = price := by
      simp [tipCap, Envelope.maxPriorityFeePerGas, Envelope.maxFeePerGas, fees]
    have newPrice : new.gasPrice = some (doubled price) := by
      apply kept.1
      simp [roundRequest, ReplacementFees.doubledFrom, ReplacementFees.apply, isPrice]
    have newFees : new.fees = .price (doubled price) := by
      unfold Envelope.gasPrice at newPrice
      split at newPrice
      · simp_all
      · cases newPrice
    have newCap : new.maxFeePerGas = doubled price := by simp [Envelope.maxFeePerGas, newFees]
    have newTip : tipCap new = doubled price := by
      simp [tipCap, Envelope.maxPriorityFeePerGas, Envelope.maxFeePerGas, newFees]
    rw [cap] at capSmall
    rw [cap, tip, newCap, newTip, doubled_toNat capSmall]
    exact ⟨le_refl _, le_refl _⟩
  | dynamic cap tip =>
    have isDynamic : old.gasPrice = none := by simp [Envelope.gasPrice, fees]
    have oldCap : old.maxFeePerGas = cap := by simp [Envelope.maxFeePerGas, fees]
    have oldTip : old.maxPriorityFeePerGas = some tip := by
      simp [Envelope.maxPriorityFeePerGas, fees]
    have oldTipCap : tipCap old = tip := by simp [tipCap, oldTip]
    obtain ⟨keptCap, keptTip⟩ := kept.2 (by
      simp [roundRequest, ReplacementFees.doubledFrom, ReplacementFees.apply, isDynamic,
        sameKind isDynamic])
    have newCap : new.maxFeePerGas = doubled cap := by
      apply keptCap
      simp [roundRequest, ReplacementFees.doubledFrom, ReplacementFees.apply, isDynamic, oldCap]
    have newTip : tipCap new = doubled tip := by
      rw [tipCap, keptTip (doubled tip), Option.getD_some]
      simp [roundRequest, ReplacementFees.doubledFrom, ReplacementFees.apply, isDynamic, oldTip]
    rw [oldCap] at capSmall
    rw [oldTipCap] at tipSmall
    rw [oldCap, oldTipCap, newCap, newTip, doubled_toNat capSmall, doubled_toNat tipSmall]
    exact ⟨le_refl _, le_refl _⟩

/-- A request that leaves the price open was made from one that does. -/
theorem gasPrice_of_kept
    {nonceOverride gasOverride : Option U64}
    {replacementFees : Option ReplacementFees}
    (kept : KeepsFees (roundRequest tx nonceOverride gasOverride replacementFees) new)
    (isDynamic : new.gasPrice = none) :
    tx.gasPrice = none := by
  cases price : tx.gasPrice with
  | none => rfl
  | some value =>
    have preset :
        ∃ chosen, (roundRequest tx nonceOverride gasOverride replacementFees).gasPrice =
          some chosen := by
      cases replacementFees with
      | none => exact ⟨value, price⟩
      | some fees =>
        cases own : fees.gasPrice with
        | none => exact ⟨value, by simp [roundRequest, ReplacementFees.apply, own, price]⟩
        | some chosen => exact ⟨chosen, by simp [roundRequest, ReplacementFees.apply, own]⟩
    obtain ⟨chosen, isChosen⟩ := preset
    have filled := kept.1 chosen isChosen
    rw [isDynamic] at filled
    cases filled

end Fees

/-- A transaction counts whether or not it fails. -/
def anyOutcome (_ : Bool) : Prop := True

section Contracts

variable {lib : Platform} {signer : Address} {outbids : Envelope → Envelope → Bool}
variable {Value : Type} {pool later : Pool lib} {held : Bool} {lookups : Nat}

/-- The contract of a part of the call, with fair answers. -/
abbrev Steps
    (lib : Platform)
    (signer : Address)
    (outbids : Envelope → Envelope → Bool)
    (lookups : Nat)
    (program : Send Value)
    (ends : Value → Bool → Pool lib → Prop)
    (held : Bool)
    (pool : Pool lib) : Prop :=
  Network.Submits anyOutcome (sendMachine lib signer outbids (Fair lookups)) (fun pool => pool)
    program ends (fun _ _ _ => True) held pool

theorem pool_surrounds {condition : Condition} :
    Network.Surrounds (sendMachine lib signer outbids condition) (fun pool => pool) :=
  fun ⟨_, moved⟩ => Network.move_drift moved

/-- All envelopes of the call are closed. -/
def AllClosed (pool : Pool lib) : Prop :=
  ∀ old ∈ pool.ours, Network.Closed anyOutcome pool old

/-- No envelope of the call with this hash is mined or pooled. -/
def Unknown (hash : Digest) (pool : Pool lib) : Prop :=
  ∀ old ∈ pool.ours, lib.txHash old = hash → pool.Absent old

/-- An envelope is the other one, or has its nonce and is outbid by it. -/
def Precedes (lib : Platform) (old envelope : Envelope) : Prop :=
  slotOf lib old = slotOf lib envelope ∧ (old = envelope ∨ Priced old ∧ Doubles envelope old)

/--
The envelopes of the call that are open have the nonce of the last one, which
outbids them; the hashes of all of them are listed.
-/
structure Leads (hashes : List Digest) (envelope : Envelope) (pool : Pool lib) : Prop where
  latest : pool.Latest envelope
  tidy : Tidy pool
  listed : ∀ old ∈ pool.ours, lib.txHash old ∈ hashes
  others : ∀ old ∈ pool.ours, Network.Closed anyOutcome pool old ∨ Precedes lib old envelope

variable {hashes : List Digest} {envelope : Envelope}

theorem Precedes.refl (envelope : Envelope) : Precedes lib envelope envelope :=
  ⟨rfl, .inl rfl⟩

theorem Tidy.enqueue (tidy : Tidy pool) (envelope : Envelope) : Tidy (pool.enqueue envelope) := by
  unfold Tidy Network.enqueue
  rw [List.map_cons, List.nodup_cons]
  constructor
  · intro listed
    obtain ⟨other, member, same⟩ := List.mem_map.mp listed
    have differs := (List.mem_filter.mp member).2
    simp [same] at differs
  · exact List.Nodup.sublist (List.filter_sublist.map _) tidy

theorem Tidy.move {step : Network.Move Envelope} (tidy : Tidy pool)
    (moved : pool.move step = some later) :
    Tidy later := by
  have settled : ∀ {envelope outcome}, pool.settle envelope outcome = some later → Tidy later := by
    intro envelope outcome settled
    unfold Network.settle at settled
    split at settled
    · cases settled
      exact List.Nodup.sublist (List.filter_sublist.map _) tidy
    · cases settled
  cases step with
  | land envelope outcome => exact settled (Option.ite_none_right_eq_some.mp moved).2
  | forget envelope =>
    cases moved
    exact List.Nodup.sublist (List.filter_sublist.map _) tidy
  | foreignWaits envelope =>
    cases (Option.ite_none_left_eq_some.mp moved).2
    exact tidy.enqueue envelope
  | foreignLands envelope outcome => exact settled (Option.ite_none_left_eq_some.mp moved).2

theorem AllClosed.drift (closed : AllClosed pool) (drifts : Network.Drift pool later) :
    AllClosed later := by
  intro old own
  rw [drifts.ours] at own
  exact (closed old own).drift own drifts

theorem Unknown.drift {hash : Digest} (unknown : Unknown hash pool)
    (drifts : Network.Drift pool later) :
    Unknown hash later := by
  intro old own isHash
  rw [drifts.ours] at own
  exact (unknown old own isHash).drift own drifts

theorem Leads.move {step : Network.Move Envelope} (leads : Leads hashes envelope pool)
    (moved : pool.move step = some later) :
    Leads hashes envelope later := by
  have drifts := Network.move_drift moved
  refine ⟨leads.latest.drift drifts, leads.tidy.move moved, drifts.ours ▸ leads.listed, ?_⟩
  intro old own
  rw [drifts.ours] at own
  exact (leads.others old own).imp_left fun closed => closed.drift own drifts

theorem Leads.enqueue (leads : Leads hashes envelope pool) : Leads hashes envelope (pool.enqueue envelope) := by
  refine ⟨leads.latest, leads.tidy.enqueue envelope, leads.listed, ?_⟩
  intro old own
  by_cases same : old = envelope
  · right
    rw [same]
    exact Precedes.refl envelope
  · exact (leads.others old own).imp_left fun closed =>
      closed.accept same rfl fun _ member => Network.mem_enqueue member

/--
A held nonce is held by a transaction of others: what the call signed before for
the same nonce is outbid by the envelope that was rejected.
-/
theorem Leads.allClosed
    {error : String}
    (accepts : AcceptsDoubled outbids)
    (leads : Leads hashes envelope pool)
    (rejected : RejectionTrue outbids pool envelope error)
    (isHeld : nonceHeldByPooledTx error = true) :
    AllClosed pool := by
  obtain ⟨unused, other, waits, differs, otherSlot, low⟩ := rejected.2 isHeld
  intro old own
  rcases leads.others old own with closed | ⟨sameSlot, which⟩
  · exact closed
  · constructor
    · rintro ⟨outcome, landed, _⟩
      exact unused (sameSlot ▸ List.mem_map_of_mem landed)
    · left
      intro oldWaits
      have isOther : old = other :=
        List.inj_on_of_nodup_map leads.tidy oldWaits waits (sameSlot.trans otherSlot.symm)
      rcases which with isEnvelope | ⟨priced, doubles⟩
      · exact differs (isOther.symm.trans isEnvelope)
      · rw [isOther] at priced doubles
        rw [accepts priced doubles] at low
        cases low

/-- What holds of a call after a broadcast, or while it goes on. -/
def Offered (hashes : List Digest) (envelope : Envelope) (held : Bool) (pool : Pool lib) : Prop :=
  Leads hashes envelope pool ∧ (held = true → AllClosed pool)

theorem leads_stable {condition : Condition} :
    Network.Stable (sendMachine lib signer outbids condition)
      (fun _ pool => Leads hashes envelope pool) :=
  fun _ _ _ ⟨_, moved⟩ leads => leads.move moved

theorem offered_stable {condition : Condition} :
    Network.Stable (sendMachine lib signer outbids condition) (Offered hashes envelope) :=
  fun _ _ _ ⟨_, moved⟩ offered => ⟨offered.1.move moved,
    fun isHeld => (offered.2 isHeld).drift (Network.move_drift moved)⟩

theorem reads_sleep {condition : Condition} :
    (sendMachine lib signer outbids condition).Reads .sleep :=
  fun _ _ _ => rfl

/-- One answer to a broadcast: either it was accepted, or what was known stays true. -/
theorem Offered.reply
    {endpoint : Nat}
    {taken : Bool}
    {error : String}
    (accepts : AcceptsDoubled outbids)
    (offered : Offered hashes envelope held pool)
    (allowed : BroadcastAnswer outbids pool envelope (taken, .error error))
    (fair : Fair lookups held (.sendRawTransaction endpoint envelope) (taken, .error error)) :
    Offered hashes envelope (reported held (.error error))
      (if taken then pool.enqueue envelope else pool) := by
  obtain ⟨_, rejected, refuses⟩ := allowed
  cases taken with
  | true =>
    have notHeld : held = false := fair
    have noReport : nonceHeldByPooledTx error = false := by
      by_contra isReport
      have refused := refuses (.inr (by simpa using isReport))
      cases refused
    refine ⟨offered.1.enqueue, ?_⟩
    simp [reported, notHeld, noReport]
  | false =>
    refine ⟨offered.1, ?_⟩
    intro isHeld
    rcases Bool.or_eq_true_iff.mp isHeld with before | now
    · exact offered.2 before
    · exact offered.1.allClosed accepts rejected now

theorem safeStep_offer (leads : Leads hashes envelope pool) (taken : Bool) :
    Network.SafeStep anyOutcome pool (if taken then pool.enqueue envelope else pool) := by
  cases taken with
  | true => exact .unsigned (Network.enqueue_step leads.latest) rfl
  | false => exact .refl pool

/--
Offering an envelope to all endpoints.  The flag says whether one has accepted it
before; if none has, a report of a held nonce shows that everything is closed.
-/
theorem steps_offerAll
    (accepts : AcceptsDoubled outbids)
    (endpoints : List Nat)
    (accepted : Bool)
    (leads : Leads hashes envelope pool)
    (shut : accepted = false → Offered hashes envelope held pool) :
    Steps lib signer outbids lookups (offerAll envelope endpoints)
      (fun outcome heldLater pool =>
        Leads hashes envelope pool ∧
          (accepted = false → outcome.1 = false → Offered hashes envelope heldLater pool) ∧
          (held = true → heldLater = true) ∧
          ∀ error ∈ outcome.2, nonceHeldByPooledTx error = true → heldLater = true)
      held pool := by
  induction endpoints generalizing pool held accepted with
  | nil => exact ⟨leads, fun fresh _ => shut fresh, id, fun _ absent => by cases absent⟩
  | cons endpoint rest ih =>
    apply Meets.perform_bind
    rintro moved evolved ⟨taken, answer⟩ ⟨allowed, fair⟩
    have leadsNow : Leads hashes envelope moved :=
      leads_stable.evolves held evolved leads
    refine ⟨safeStep_offer leadsNow taken, ?_⟩
    have leadsNext : Leads hashes envelope (if taken then moved.enqueue envelope else moved) := by
      cases taken with
      | true => exact leadsNow.enqueue
      | false => exact leadsNow
    cases answer with
    | ok =>
      apply Meets.seq (ih true leadsNext (fun absurd => by cases absurd))
      rintro others heldLast last ⟨leadsLast, _, grows, reports⟩
      exact ⟨leadsLast, fun _ absurd => (by cases absurd), grows, reports⟩
    | error error =>
      have shutNext : accepted = false →
          Offered hashes envelope (reported held (.error error))
            (if taken then moved.enqueue envelope else moved) := by
        intro fresh
        have offered := offered_stable.evolves held evolved (shut fresh)
        exact offered.reply accepts allowed fair
      apply Meets.seq (ih accepted leadsNext shutNext)
      rintro others heldLast last ⟨leadsLast, shutLast, grows, reports⟩
      refine ⟨leadsLast, shutLast, ?_, ?_⟩
      · intro before
        exact grows (by simp [reported, before])
      · intro listed member isHeld
        rcases List.mem_cons.mp member with same | old
        · exact grows (by simp [reported, ← same, isHeld])
        · exact reports listed old isHeld

theorem mem_of_pickError {errors : List String} {error : String}
    (picked : pickError errors = some error) :
    error ∈ errors := by
  rcases Option.or_eq_some_iff.mp picked with found | ⟨_, first⟩
  · exact List.mem_of_find?_eq_some found
  · exact List.mem_of_head? first

/-- What a broadcast with its repetitions leaves: after an error, nothing was accepted. -/
def Broadcast
    (hashes : List Digest)
    (envelope : Envelope)
    (sent : Except String Digest)
    (held : Bool)
    (pool : Pool lib) : Prop :=
  Leads hashes envelope pool ∧ ∀ error, sent = .error error →
      Offered hashes envelope held pool ∧ (nonceHeldByPooledTx error = true → held = true)

theorem steps_broadcastRaw
    (accepts : AcceptsDoubled outbids)
    (endpoints : List Nat)
    (offered : Offered hashes envelope held pool) :
    Steps lib signer outbids lookups (broadcastRaw lib endpoints envelope)
      (Broadcast hashes envelope) held pool := by
  apply Network.Submits.retry ?_ ?_ ?_ _ offered
  · intro heldNow now offeredNow
    apply Meets.seq (steps_offerAll accepts endpoints false offeredNow.1
      (fun _ => offeredNow))
    rintro outcome heldLast last ⟨leads, shut, _, reports⟩
    by_cases isAccepted : outcome.1
    · simp only [isAccepted, if_true]
      exact ⟨leads, fun _ absurd => by cases absurd⟩
    · simp only [isAccepted]
      apply Meets.orFail_bind
      · intro error picked
        refine ⟨leads, ?_⟩
        intro shown isShown
        cases isShown
        exact ⟨shut rfl (by simpa using isAccepted), reports error (mem_of_pickError picked)⟩
      · exact fun _ => trivial
  · exact fun error _ _ reached => (reached.2 error rfl).1
  · intro heldNow now offeredNow
    exact Network.Submits.ask offered_stable reads_sleep offeredNow fun _ _ stays _ => stays

section Lookups

variable {kept : Bool → Pool lib → Prop} {hash : Digest}

/--
A lookup that finds nothing, once the endpoint that answers all lookups was
asked, shows that no envelope with the hash is mined or pooled.
-/
theorem steps_txKnownByHash
    (stable : Network.Stable (sendMachine lib signer outbids (Fair lookups)) kept)
    (endpoints : List Nat)
    (seen : Prop)
    (start : kept held pool)
    (unknown : seen → Unknown hash pool) :
    Steps lib signer outbids lookups (txKnownByHash hash endpoints)
      (fun known held pool => kept held pool ∧
        (known = false → seen ∨ lookups ∈ endpoints → Unknown hash pool))
      held pool := by
  induction endpoints generalizing pool seen with
  | nil => exact ⟨start, fun _ isSeen => unknown (by simpa using isSeen)⟩
  | cons endpoint rest ih =>
    have stableBoth : Network.Stable (sendMachine lib signer outbids (Fair lookups))
        (fun held pool => kept held pool ∧ (seen → Unknown hash pool)) := by
      rintro held pool later ⟨step, moved⟩ ⟨keptNow, unknownNow⟩
      exact ⟨stable held pool later ⟨step, moved⟩ keptNow,
        fun isSeen => (unknownNow isSeen).drift (Network.move_drift moved)⟩
    apply Network.Submits.ask_bind stableBoth (fun _ _ _ => rfl) ⟨start, unknown⟩
    rintro moved found ⟨keptNow, unknownNow⟩ ⟨answered, fair⟩
    split
    · exact ⟨keptNow, fun absurd => by cases absurd⟩
    · rename_i isUnknown
      have seenNow : seen ∨ endpoint = lookups → Unknown hash moved := by
        rintro (isSeen | isAsked) old own isHash
        · exact unknownNow isSeen old own isHash
        · have absent : ¬ Known moved hash := by
            cases found with
            | none => exact absurd isAsked fair
            | some known =>
              intro isThere
              exact isUnknown (congrArg some (answered.mpr isThere))
          exact ⟨fun outcome landed => absent (.inl ⟨_, landed, isHash⟩),
            fun waits => absent (.inr ⟨_, waits, isHash⟩)⟩
      apply (ih (seen ∨ endpoint = lookups) keptNow seenNow).weaken
      · rintro known held last ⟨keptLast, unknownLast⟩
        refine ⟨keptLast, fun notKnown asked => unknownLast notKnown ?_⟩
        rcases asked with isSeen | listed
        · exact .inl (.inl isSeen)
        · rcases List.mem_cons.mp listed with same | later
          · exact .inl (.inr same.symm)
          · exact .inr later
      · exact fun _ _ _ ends => ends

theorem steps_anyTxKnownByHash
    (stable : Network.Stable (sendMachine lib signer outbids (Fair lookups)) kept)
    {endpoints : List Nat}
    (asked : lookups ∈ endpoints)
    (hashes : List Digest)
    (start : kept held pool) :
    Steps lib signer outbids lookups (anyTxKnownByHash endpoints hashes)
      (fun known held pool => kept held pool ∧
        (known = false → ∀ hash ∈ hashes, Unknown hash pool))
      held pool := by
  induction hashes generalizing pool held kept with
  | nil => exact ⟨start, fun _ _ absent => by cases absent⟩
  | cons hash rest ih =>
    apply Meets.seq
      (steps_txKnownByHash stable endpoints False start (fun absurd => absurd.elim))
    rintro known heldNow now ⟨keptNow, unknownNow⟩
    cases known with
    | true => exact ⟨keptNow, fun absurd => by cases absurd⟩
    | false =>
      have stableBoth : Network.Stable (sendMachine lib signer outbids (Fair lookups))
          (fun held pool => kept held pool ∧ Unknown hash pool) := by
        rintro held pool later ⟨step, moved⟩ ⟨keptBefore, unknownBefore⟩
        exact ⟨stable held pool later ⟨step, moved⟩ keptBefore,
          unknownBefore.drift (Network.move_drift moved)⟩
      apply (ih stableBoth ⟨keptNow, unknownNow rfl (.inr asked)⟩).weaken
      · rintro known held last ⟨⟨keptLast, unknownHash⟩, unknownRest⟩
        refine ⟨keptLast, fun isUnknown other member => ?_⟩
        rcases List.mem_cons.mp member with same | old
        · exact same ▸ unknownHash
        · exact unknownRest isUnknown other old
      · exact fun _ _ _ ends => ends

end Lookups

theorem only_waitReceiptAny (endpoints : List Nat) (hashes : List Digest) :
    (waitReceiptAny endpoints hashes).Only
      (sendMachine lib signer outbids (Fair lookups)).Reads := by
  have once : (findReceiptAny endpoints hashes).Only
      (sendMachine lib signer outbids (Fair lookups)).Reads := by
    apply Program.Only.firstSome
    exact fun entry => ⟨fun _ _ _ => rfl, fun _ => trivial⟩
  refine ⟨fun _ _ _ => rfl, fun polls => ?_⟩
  change (pollReceiptAny endpoints hashes polls).Only _
  induction polls with
  | zero => exact once
  | succ polls ih =>
    apply once.bind
    intro found
    cases found with
    | some receipt => trivial
    | none => exact ⟨fun _ _ _ => rfl, fun _ => ih⟩

/-- The state in which the call signs a replacement of an envelope. -/
structure Replaces
    (lib : Platform)
    (signer : Address)
    (tx : TransactionRequest)
    (state : SendState)
    (old : Envelope) : Prop where
  sender : lib.recoverAddress old = some signer
  priced : Priced old
  nonce : state.nonceOverride = some old.nonce
  fees : state.replacementFees = some (.doubledFrom old)
  sameKind : old.gasPrice = none → tx.gasPrice = none

/-- The call can sign: all is closed, or it replaces its last envelope. -/
structure Ready
    (signer : Address)
    (tx : TransactionRequest)
    (lookups : Nat)
    (state : SendState)
    (pool : Pool lib) : Prop where
  unsigned : state.envelope = none
  tidy : Tidy pool
  listed : ∀ old ∈ pool.ours, lib.txHash old ∈ state.sentHashes
  asked : lookups ∈ state.pool
  settled : AllClosed pool ∨
    ∃ old, Leads state.sentHashes old pool ∧ Replaces lib signer tx state old

theorem ready_stable {tx : TransactionRequest} {state : SendState} {condition : Condition} :
    Network.Stable (sendMachine lib signer outbids condition)
      (fun _ pool => Ready signer tx lookups state pool) := by
  rintro held pool later ⟨step, moved⟩ ready
  have drifts := Network.move_drift moved
  refine ⟨ready.unsigned, ready.tidy.move moved, drifts.ours ▸ ready.listed, ready.asked, ?_⟩
  rcases ready.settled with closed | ⟨old, leads, replaces⟩
  · exact .inl (closed.drift drifts)
  · exact .inr ⟨old, leads.move moved, replaces⟩

theorem mem_rotateLeft {endpoints : List Nat} (asked : lookups ∈ endpoints) (places : Nat) :
    lookups ∈ endpoints.rotateLeft places := by
  simp only [List.rotateLeft]
  split
  · exact asked
  · rw [List.mem_append, or_comm, ← List.mem_append, List.take_append_drop]
    exact asked

section Passes

variable {endpoints : List Nat} {tx : TransactionRequest} {label : String} {state : SendState}

/-- A filled in envelope leads: what is open has its nonce and half its fees. -/
theorem Ready.leads
    (ready : Ready signer tx lookups state pool)
    (fills : Fills lib signer
      (roundRequest tx state.nonceOverride state.gasOverride state.replacementFees) envelope)
    (kept : KeepsFees
      (roundRequest tx state.nonceOverride state.gasOverride state.replacementFees) envelope) :
    (∀ old ∈ pool.ours,
        Network.Closed anyOutcome pool old ∨ Precedes lib old envelope) := by
  intro old own
  rcases ready.settled with closed | ⟨prev, leads, replaces⟩
  · exact .inl (closed old own)
  · have doubles : Doubles envelope prev := by
      rw [replaces.fees] at kept
      exact doubles_of_replacement replaces.priced replaces.sameKind kept
    have sameNonce : envelope.nonce = prev.nonce := by
      apply fills.2.1
      rw [replaces.nonce, replaces.fees]
      rfl
    have sameSlot : slotOf lib prev = slotOf lib envelope := by
      rw [slotOf, slotOf, replaces.sender, fills.1, sameNonce]
    rcases leads.others old own with closed | ⟨oldSlot, which⟩
    · exact .inl closed
    · refine .inr ⟨oldSlot.trans sameSlot, .inr ?_⟩
      rcases which with isPrev | ⟨priced, outbid⟩
      · exact isPrev ▸ ⟨replaces.priced, doubles⟩
      · exact ⟨priced, doubles.trans outbid⟩

theorem steps_afterBroadcast
    (state : SendState)
    {sent : Except String Digest}
    (asked : lookups ∈ endpoints)
    (askedNow : lookups ∈ state.pool)
    (broadcast : Broadcast state.sentHashes envelope sent held pool) :
    Steps lib signer outbids lookups (afterBroadcast endpoints label state sent)
      (fun again _ pool => Leads state.sentHashes envelope pool ∧
        ∀ next, again = some next → Ready signer tx lookups next pool)
      held pool := by
  cases sent with
  | ok hash => exact ⟨broadcast.1, fun _ absurd => by cases absurd⟩
  | error error =>
    obtain ⟨offered, reports⟩ := broadcast.2 error rfl
    simp only [afterBroadcast]
    split
    · apply Meets.andThen (steps_anyTxKnownByHash leads_stable askedNow state.sentHashes broadcast.1)
      · exact fun _ _ _ ends => ends
      · rintro known heldNow now ⟨leads, unknown⟩
        cases known with
        | true => exact ⟨leads, fun _ absurd => by cases absurd⟩
        | false =>
          refine ⟨leads, ?_⟩
          intro next isNext
          cases isNext
          refine ⟨rfl, leads.tidy, leads.listed, askedNow, .inl ?_⟩
          intro old own
          exact (unknown rfl _ (leads.listed old own) old own rfl).closed
    · split
      · rename_i isHeld
        split
        · trivial
        · apply Network.Submits.ask_bind offered_stable reads_sleep offered
          intro moved _ offeredNow _
          refine ⟨offeredNow.1, ?_⟩
          intro next isNext
          cases isNext
          exact ⟨rfl, offeredNow.1.tidy, offeredNow.1.listed, mem_rotateLeft asked _,
            .inl (offeredNow.2 (reports isHeld))⟩
      · trivial

/-- The hash of an envelope is listed once it is signed, and all earlier ones stay. -/
theorem mem_signed
    {hash : Digest}
    (listed : hash ∈ state.sentHashes ∨ hash = lib.txHash envelope) :
    hash ∈ (state.signed envelope (lib.txHash envelope)).sentHashes := by
  simp only [SendState.signed]
  split
  · rename_i known
    rcases listed with before | isNew
    · exact before
    · exact isNew ▸ known
  · simpa using listed

theorem steps_sendPasses
    (accepts : AcceptsDoubled outbids)
    (asked : lookups ∈ endpoints)
    (passes : Nat)
    (ready : Ready signer tx lookups state pool) :
    Steps lib signer outbids lookups (sendPasses lib endpoints tx label passes state)
      (fun _ _ _ => True) held pool := by
  induction passes generalizing pool state held with
  | zero => trivial
  | succ passes ih =>
    simp only [sendPasses]
    split
    · trivial
    · simp only [currentEnvelope, ready.unsigned]
      apply Meets.bind
      apply Meets.perform_bind
      rintro moved evolved reply ⟨allowed, fair⟩
      have readyNow : Ready signer tx lookups state moved :=
        ready_stable.evolves held evolved ready
      cases reply with
      | error error => exact ⟨.refl moved, trivial⟩
      | ok envelope =>
        obtain ⟨fills, keeps⟩ := allowed
        have others := readyNow.leads fills keeps
        refine ⟨.sign fun old own => ?_, ?_⟩
        · exact (others old own).symm.imp_left And.left
        · have leads : Leads (state.signed envelope (lib.txHash envelope)).sentHashes envelope
              { moved with ours := moved.ours ++ [envelope] } := by
            refine ⟨Network.latest_signed envelope moved, readyNow.tidy, ?_, ?_⟩
            · intro old own
              rcases List.mem_append.mp own with before | isNew
              · exact mem_signed (.inl (readyNow.listed old before))
              · exact mem_signed (.inr (by rw [List.mem_singleton.mp isNew]))
            · intro old own
              rcases List.mem_append.mp own with before | isNew
              · exact others old before
              · right
                rw [List.mem_singleton.mp isNew]
                exact Precedes.refl envelope
          apply Meets.seq
            (steps_broadcastRaw accepts _ ⟨leads, fun absurd => by cases absurd⟩)
          intro sent heldNow now broadcast
          apply Meets.seq (steps_afterBroadcast
            (state.signed envelope (lib.txHash envelope)) asked readyNow.asked broadcast)
          rintro again heldLater later ⟨leadsLater, restarts⟩
          cases again with
          | some next => exact ih (restarts next rfl)
          | none =>
            apply Meets.andThen
              (Network.Submits.quietly leads_stable (only_waitReceiptAny _ _) leadsLater)
            · exact fun _ _ _ _ => trivial
            · intro found heldLast last leadsLast
              cases found with
              | some receipt => trivial
              | none =>
                apply ih
                exact ⟨rfl, leadsLast.tidy, leadsLast.listed, readyNow.asked, .inr
                  ⟨envelope, leadsLast, fills.1, fair, rfl, rfl, gasPrice_of_kept keeps⟩⟩

end Passes

end Contracts

section Once

variable {lib : Platform} {signer : Address} {outbids : Envelope → Envelope → Bool}

/-- The call before its first request. -/
def callStart
    (lib : Platform)
    (endpoints : List Nat)
    (tx : TransactionRequest)
    (label : String)
    (pool : Pool lib) :
    Config sendInterface String Bool (Pool lib) :=
  ⟨.busy ((sendTxRobust lib endpoints tx label).bind fun _ => .done ()), false, pool⟩

/-- A run of one call in which all answers meet a condition. -/
def SendRun
    (lib : Platform)
    (signer : Address)
    (outbids : Envelope → Envelope → Bool)
    (condition : Condition)
    (start last : Config sendInterface String Bool (Pool lib)) : Prop :=
  (Service.once (sendMachine lib signer outbids condition)).Runs Service.Permit.anything start last

/--
For every request and all behaviour of the endpoints, the mempool and the chain:
if the fees that are filled in can be doubled, one of the endpoints answers all
lookups of hashes, and no mempool takes an envelope without saying so after its
nonce was reported as held, then at no moment more than one of the envelopes of
the call is mined, also after the call has returned.
-/
theorem at_most_one_is_mined
    {endpoints : List Nat}
    {tx : TransactionRequest}
    {label : String}
    {pool : Pool lib}
    {lookups : Nat}
    {last : Config sendInterface String Bool (Pool lib)}
    (accepts : AcceptsDoubled outbids)
    (asked : lookups ∈ endpoints)
    (run : SendRun lib signer outbids (Fair lookups)
      (callStart lib endpoints tx label pool) last)
    (tidy : Tidy pool)
    (fresh : pool.ours = [])
    {first second : Envelope}
    (firstOwn : first ∈ last.world.ours)
    (secondOwn : second ∈ last.world.ours)
    (firstMined : ∃ outcome, (first, outcome) ∈ last.world.landed)
    (secondMined : ∃ outcome, (second, outcome) ∈ last.world.landed) :
    first = second := by
  have ready : Ready signer tx lookups (.initial tx endpoints) pool := by
    refine ⟨rfl, tidy, ?_, asked, .inl ?_⟩
    · simp [fresh]
    · simp [AllClosed, fresh]
  have submits : Steps lib signer outbids lookups
        ((sendTxRobust lib endpoints tx label).bind fun _ => .done ())
        (fun _ _ _ => True) false pool := by
    apply Meets.seq (steps_sendPasses accepts asked maxSendAttempts ready)
    exact fun _ _ _ _ => trivial
  have counted : ∀ {envelope}, (∃ outcome, (envelope, outcome) ∈ last.world.landed) →
        Network.Counted anyOutcome last.world envelope := by
    rintro envelope ⟨outcome, mined⟩
    exact ⟨outcome, mined, trivial⟩
  exact Network.at_most_once_of_submits pool_surrounds submits run fresh firstOwn secondOwn
    (counted firstMined) (counted secondMined)

end Once

namespace Sample

open Hardened.Sample

/-- A price is raised if the cap and the tip grow by a tenth at least. -/
def raises (new old : U128) : Bool :=
  decide (old.toNat < new.toNat ∧ old.toNat * 110 ≤ new.toNat * 100)

/-- A replacement is taken if both fees are raised. -/
def outbidsBoth (new old : Envelope) : Bool :=
  raises new.maxFeePerGas old.maxFeePerGas &&
    raises (new.maxPriorityFeePerGas.getD new.maxFeePerGas)
      (old.maxPriorityFeePerGas.getD old.maxFeePerGas)

def account : Address := 1

def pendingCount (pool : Pool platform) : U64 :=
  BitVec.ofNat 64 (pool.landed.length + pool.waiting.length)

/-- A request with what is missing filled in. -/
def filledIn (pool : Pool platform) (request : TransactionRequest) : Envelope where
  ty := .eip1559
  chainId := request.chainId
  nonce := request.nonce.getD (pendingCount pool)
  gasLimit := request.gas.getD 21000
  fees :=
    match request.gasPrice with
    | some price => .price price
    | none => .dynamic (request.maxFeePerGas.getD 2) (request.maxPriorityFeePerGas.getD 1)
  kind := request.destination.getD .create
  value := request.value.getD 0
  input := request.input.getD []
  accessList := request.accessList
  authorizationList := request.authorizationList
  blobVersionedHashes := request.blobVersionedHashes
  signature := word160.encode account

/-- The true answer of a mempool. -/
def offer (pool : Pool platform) (envelope : Envelope) : Bool × Except String Unit :=
  if pool.Uses (slotOf platform envelope) then
    (false, .error "nonce too low")
  else if
    ∃ other ∈ pool.waiting, other ≠ envelope ∧ slotOf platform other = slotOf platform envelope ∧
        outbidsBoth envelope other = false
  then
    (false, .error "replacement transaction underpriced")
  else
    (true, .ok ())

def receiptOf (pool : Pool platform) (hash : Digest) : Option Receipt :=
  (pool.landed.find? fun entry => platform.txHash entry.1 = hash).map fun entry =>
    { transactionHash := hash
      blockNumber := none
      blockHash := none
      status := entry.2
      contractAddress := none }

theorem filledIn_answers (pool : Pool platform) (request : TransactionRequest) :
    @SigningAnswer platform account request (.ok (filledIn pool request)) := by
  refine ⟨⟨recoverAddress_eq rfl, ?_, ?_, ?_, ?_, rfl, rfl, rfl, rfl, rfl⟩, ?_⟩
  · intro nonce preset
    simp [filledIn, Option.mem_def.mp preset]
  · intro gas preset
    simp [filledIn, Option.mem_def.mp preset]
  · intro chainId preset
    simpa [filledIn] using preset
  · intro kind preset
    simp [filledIn, Option.mem_def.mp preset]
  · constructor
    · intro price preset
      simp [filledIn, Envelope.gasPrice, Option.mem_def.mp preset]
    · intro dynamic
      constructor
      · intro fee preset
        simp [filledIn, Envelope.maxFeePerGas, dynamic, Option.mem_def.mp preset]
      · intro tip preset
        simp [filledIn, Envelope.maxPriorityFeePerGas, dynamic, Option.mem_def.mp preset]

/-- The prompt answer, if the endpoints can give it. -/
def checkedReply (pool : Pool platform) : (op : Call) → Option op.Reply
  | .fillAndSign _ request => some (Except.ok (filledIn pool request))
  | .sendRawTransaction _ envelope =>
    if BroadcastAnswer outbidsBoth pool envelope (offer pool envelope) then
      some (offer pool envelope)
    else
      none
  | .transactionByHash _ hash => some (some (decide (Known pool hash)))
  | .transactionReceipt _ hash =>
    if ReceiptAnswer pool hash (some (receiptOf pool hash)) then
      some (some (receiptOf pool hash))
    else
      none
  | .polls => some (0 : Nat)
  | .sleep => some ()

theorem checkedReply_allowed {pool : Pool platform} {op : Call} {answer : op.Reply}
    (replied : checkedReply pool op = some answer) :
    answers account outbidsBoth pool op answer := by
  cases op with
  | fillAndSign endpoints request =>
    cases replied
    exact filledIn_answers pool request
  | sendRawTransaction endpoint envelope =>
    obtain ⟨allowed, same⟩ := Option.ite_none_right_eq_some.mp replied
    cases same
    exact allowed
  | transactionByHash endpoint hash =>
    cases replied
    exact decide_eq_true_iff
  | transactionReceipt endpoint hash =>
    obtain ⟨allowed, same⟩ := Option.ite_none_right_eq_some.mp replied
    cases same
    exact allowed
  | polls => trivial
  | sleep => trivial

instance decidableAnyAnswer (held : Bool) (op : Call) (reply : op.Reply) :
    Decidable (anyAnswer held op reply) :=
  .isTrue trivial

instance decidableFair (lookups : Nat) (held : Bool) :
    (op : Call) → (reply : op.Reply) → Decidable (Fair lookups held op reply)
  | .fillAndSign _ _, .ok _ => inferInstanceAs (Decidable (_ ∧ _))
  | .fillAndSign _ _, .error _ => .isTrue trivial
  | .sendRawTransaction _ _, (true, .error _) => inferInstanceAs (Decidable (_ = _))
  | .sendRawTransaction _ _, (false, .error _) => .isTrue trivial
  | .sendRawTransaction _ _, (true, .ok _) => .isTrue trivial
  | .sendRawTransaction _ _, (false, .ok _) => .isTrue trivial
  | .transactionByHash _ _, none => inferInstanceAs (Decidable (_ ≠ _))
  | .transactionByHash _ _, some _ => .isTrue trivial
  | .transactionReceipt _ _, _ => .isTrue trivial
  | .polls, _ => .isTrue trivial
  | .sleep, _ => .isTrue trivial

section Conditions

variable (condition : Condition)
variable [∀ (held : Bool) (op : Call) (reply : op.Reply), Decidable (condition held op reply)]

/-- The prompt answer, if it meets the condition. -/
def conditionReply (held : Bool) (pool : Pool platform) (op : Call) : Option op.Reply :=
  (checkedReply pool op).filter fun reply => decide (condition held op reply)

theorem conditionReply_allowed
    {held : Bool}
    {pool : Pool platform}
    {op : Call}
    {answer : op.Reply}
    (replied : conditionReply condition held pool op = some answer) :
    answers account outbidsBoth pool op answer ∧ condition held op answer := by
  obtain ⟨found, meets⟩ := Option.filter_eq_some_iff.mp replied
  exact ⟨checkedReply_allowed found, of_decide_eq_true meets⟩

def responder : @Responder sendInterface String Bool (Pool platform) Empty
      (Service.once (sendMachine platform account outbidsBoth condition))
      (Network.Move Envelope) Unit where
  move := fun step pool => pool.move step
  move_sound := fun moved => ⟨_, moved⟩
  reply := fun _ held pool op => conditionReply condition held pool op
  reply_sound := fun replied => conditionReply_allowed condition replied

end Conditions

theorem outbidsBoth_acceptsDoubled : AcceptsDoubled outbidsBoth := by
  intro new old priced doubles
  have raised : ∀ {first second : U128}, 0 < first.toNat → 2 * first.toNat ≤ second.toNat →
      raises second first = true := by
    intro first second positive twice
    exact decide_eq_true ⟨by omega, by omega⟩
  rw [outbidsBoth, raised priced.1.1 doubles.1, Bool.true_and]
  exact raised priced.2.1 doubles.2

theorem noSlots : (([] : List (Envelope × Bool)).map fun entry => slotOf platform entry.1).Nodup :=
  List.nodup_nil

def emptyPool : Pool platform := ⟨[], [], [], noSlots⟩

def transfer (tip : U128) : TransactionRequest :=
  { destination := some (.call 9), maxPriorityFeePerGas := some tip }

def transferWith (nonce : U64) (maxFee tip : U128) : Envelope :=
  filledIn emptyPool
    { transfer tip with
      nonce := some nonce, maxFeePerGas := some maxFee, maxPriorityFeePerGas := some tip }

def transferStart (tip : U128) : Config sendInterface String Bool (Pool platform) :=
  callStart platform [0] (transfer tip) "transfer" emptyPool

end Sample

open Sample in
/--
The result at a run in which the first transaction is replaced in the mempool,
and the replacement is mined.
-/
theorem at_most_one_is_mined_after_replacement :
    ∃ last : Config sendInterface String Bool (Pool Hardened.Sample.platform),
      SendRun Hardened.Sample.platform account outbidsBoth (Fair 0) (transferStart 1) last ∧
        last.world.ours = [transferWith 0 2 1, transferWith 0 4 2] ∧
        (∃ outcome, (transferWith 0 4 2, outcome) ∈ last.world.landed) ∧
        ∀ first ∈ last.world.ours, (∃ outcome, (first, outcome) ∈ last.world.landed) →
          first = transferWith 0 4 2 := by
  obtain ⟨last, run, passed⟩ := @Responder.exists_run _ _ _ _ _ _ _ _ (responder (Fair 0))
      Service.Permit.anything _ (transferStart 1)
      [.answer () 6, .world (.land (transferWith 0 4 2) true)]
      (fun last =>
        decide (last.world.ours = [transferWith 0 2 1, transferWith 0 4 2] ∧
            (transferWith 0 4 2, true) ∈ last.world.landed))
      (by decide +kernel)
  obtain ⟨ours, mined⟩ := of_decide_eq_true passed
  refine ⟨last, run, ours, ⟨true, mined⟩, ?_⟩
  intro first own firstMined
  exact at_most_one_is_mined outbidsBoth_acceptsDoubled List.mem_cons_self run List.nodup_nil rfl
    own (by simp [ours]) firstMined ⟨true, mined⟩

open Sample in
/--
A tip of zero is not raised by doubling.  The replacement is rejected, the call
takes its own pooled transaction for one of others and signs with the next
nonce; both transactions are mined.
-/
theorem two_are_mined : ∃ last : Config sendInterface String Bool (Pool Hardened.Sample.platform),
      SendRun Hardened.Sample.platform account outbidsBoth anyAnswer (transferStart 0) last ∧
        transferWith 0 2 0 ∈ last.world.ours ∧ transferWith 1 2 0 ∈ last.world.ours ∧
        transferWith 0 2 0 ≠ transferWith 1 2 0 ∧
        (∃ outcome, (transferWith 0 2 0, outcome) ∈ last.world.landed) ∧
        ∃ outcome, (transferWith 1 2 0, outcome) ∈ last.world.landed := by
  obtain ⟨last, run, passed⟩ :=
    @Responder.exists_run _ _ _ _ _ _ _ _ (responder anyAnswer) Service.Permit.anything _
      (transferStart 0)
      [ .answer () 9, .world (.land (transferWith 0 2 0) true),
        .world (.land (transferWith 1 2 0) true) ]
      (fun last =>
        decide (transferWith 0 2 0 ∈ last.world.ours ∧ transferWith 1 2 0 ∈ last.world.ours ∧
            (transferWith 0 2 0, true) ∈ last.world.landed ∧
            (transferWith 1 2 0, true) ∈ last.world.landed))
      (by decide +kernel)
  obtain ⟨firstOwn, secondOwn, firstMined, secondMined⟩ := of_decide_eq_true passed
  exact ⟨last, run, firstOwn, secondOwn, by decide +kernel, ⟨true, firstMined⟩, ⟨true, secondMined⟩⟩

end Axe.EvmSend

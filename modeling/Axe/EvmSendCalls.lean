import Axe.EvmSend

namespace Axe.EvmSend

open Hardened

/-!
# What a call of the sender signs

However often a transaction is signed again, with other nonces, gas limits and fees, it
stays the same call: sender, chain, target, calldata and value are those of the request.
-/

/-- What is signed is the request, up to nonce, gas and fees. -/
def Signs (tx : TransactionRequest) : Call → Prop
  | .fillAndSign _ request =>
    request =
      { tx with
        nonce := request.nonce
        gas := request.gas
        gasPrice := request.gasPrice
        maxFeePerGas := request.maxFeePerGas
        maxPriorityFeePerGas := request.maxPriorityFeePerGas }
  | .sendRawTransaction _ _ | .transactionByHash _ _ | .transactionReceipt _ _ | .polls
  | .sleep => True

variable {lib : Platform} {tx : TransactionRequest}

theorem signs_roundRequest (pool : List Nat) (nonceOverride gasOverride : Option U64)
    (replacementFees : Option ReplacementFees) :
    Signs tx (.fillAndSign pool (roundRequest tx nonceOverride gasOverride replacementFees)) := by
  cases replacementFees with
  | none => rfl
  | some fees => rfl

/-- The program signs nothing but the request, up to nonce, gas and fees. -/
abbrev SignsOnly {Value : Type} (tx : TransactionRequest) (program : Send Value) : Prop :=
  program.Yields (Signs tx) fun _ => True

theorem signsOnly_sleep : SignsOnly tx (ask .sleep) :=
  Program.Yields.ask_bind trivial fun _ => trivial

theorem signsOnly_offerAll (envelope : Envelope) (endpoints : List Nat) :
    SignsOnly tx (offerAll envelope endpoints) := by
  induction endpoints with
  | nil => trivial
  | cons endpoint rest ih =>
    apply Program.Yields.ask_bind trivial
    intro reply
    apply ih.bind
    intro others _
    cases reply with
    | mk taken answer => cases answer <;> trivial

theorem signsOnly_broadcastRaw (pool : List Nat) (envelope : Envelope) :
    SignsOnly tx (broadcastRaw lib pool envelope) := by
  apply Program.Yields.retryTimes _ signsOnly_sleep
  apply (signsOnly_offerAll envelope pool).bind
  intro outcome _
  split
  · trivial
  · exact Program.Yields.orFail_bind fun error _ => trivial

theorem signsOnly_anyTxKnownByHash (pool : List Nat) (hashes : List Digest) :
    SignsOnly tx (anyTxKnownByHash pool hashes) := by
  have one : ∀ hash endpoints, SignsOnly tx (txKnownByHash hash endpoints) := by
    intro hash endpoints
    induction endpoints with
    | nil => trivial
    | cons endpoint rest ih =>
      apply Program.Yields.ask_bind trivial
      intro found
      split
      · trivial
      · exact ih
  induction hashes with
  | nil => trivial
  | cons hash rest ih =>
    apply (one hash pool).bind
    intro known _
    split
    · trivial
    · exact ih

theorem signsOnly_findReceiptAny (pool : List Nat) (hashes : List Digest) :
    SignsOnly tx (findReceiptAny pool hashes) := by
  unfold findReceiptAny
  generalize hashes.flatMap _ = entries
  induction entries with
  | nil => trivial
  | cons entry rest ih =>
    apply Program.Yields.ask_bind trivial
    intro found
    cases shape : Option.join found with
    | none => exact ih
    | some receipt => trivial

theorem signsOnly_waitReceiptAny (pool : List Nat) (hashes : List Digest) :
    SignsOnly tx (waitReceiptAny pool hashes) := by
  apply Program.Yields.ask_bind trivial
  intro polls
  induction polls with
  | zero => exact signsOnly_findReceiptAny pool hashes
  | succ polls ih =>
    apply (signsOnly_findReceiptAny pool hashes).bind
    intro found _
    cases found with
    | some receipt => trivial
    | none => exact signsOnly_sleep.bind fun _ _ => ih

theorem signsOnly_afterBroadcast (endpoints : List Nat) (label : String) (state : SendState)
    (sent : Except String Digest) :
    SignsOnly tx (afterBroadcast endpoints label state sent) := by
  unfold afterBroadcast
  split
  · trivial
  · split
    · apply (signsOnly_anyTxKnownByHash state.pool state.sentHashes).bind
      intro known _
      split
      · trivial
      · trivial
    · split
      · split
        · trivial
        · exact signsOnly_sleep.bind fun _ _ => trivial
      · trivial

theorem signsOnly_currentEnvelope (state : SendState) :
    SignsOnly tx (currentEnvelope tx state) := by
  unfold currentEnvelope
  split
  · trivial
  · apply Program.Yields.ask_bind (signs_roundRequest _ _ _ _)
    intro signed
    cases signed <;> trivial

theorem signsOnly_sendPasses (endpoints : List Nat) (label : String) (passes : Nat)
    (state : SendState) :
    SignsOnly tx (sendPasses lib endpoints tx label passes state) := by
  induction passes generalizing state with
  | zero => trivial
  | succ passes ih =>
    unfold sendPasses
    split
    · trivial
    · apply (signsOnly_currentEnvelope state).bind
      intro envelope _
      apply (signsOnly_broadcastRaw _ _).bind
      intro sent _
      apply (signsOnly_afterBroadcast _ _ _ _).bind
      intro again _
      cases again with
      | some next => exact ih next
      | none =>
        apply (signsOnly_waitReceiptAny _ _).bind
        intro found _
        cases found with
        | some receipt => trivial
        | none => exact ih _

theorem sendTxRobust_signs (endpoints : List Nat) (label : String) :
    (sendTxRobust lib endpoints tx label).Only (Signs tx) :=
  (signsOnly_sendPasses endpoints label maxSendAttempts _).only

end Axe.EvmSend

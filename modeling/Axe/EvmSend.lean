import Axe.HardenedPlatform
import Axe.Retry
import Axe.SubmissionNetwork

namespace Axe.EvmSend

open Hardened

/-!
# Sending an EVM transaction

One call fills in and signs a transaction, broadcasts it to every endpoint and
waits for a receipt of anything it has broadcast.  A transaction that is not
mined in time is signed again with the same nonce and doubled fees.  A rejection
that names the nonce makes the call sign again with another nonce.

Filling in and signing is one request here; it asks nodes only for what the
caller left open.  An endpoint is the place of its URL.
-/

/-- What the sender asks the endpoints and the clock. -/
inductive Call where
  | fillAndSign (pool : List Nat) (request : TransactionRequest)
  | sendRawTransaction (endpoint : Nat) (envelope : Envelope)
  | transactionByHash (endpoint : Nat) (hash : Digest)
  | transactionReceipt (endpoint : Nat) (hash : Digest)
  | polls
  | sleep

/--
The reply to each request.  A broadcast has two parts: whether a mempool took
the transaction, which the call does not see, and the answer that it gets.  A
missing answer to a lookup is a failed request.
-/
def Call.Reply : Call → Type
  | fillAndSign _ _ => Except String Envelope
  | sendRawTransaction _ _ => Bool × Except String Unit
  | transactionByHash _ _ => Option Bool
  | transactionReceipt _ _ => Option (Option Receipt)
  | polls => Nat
  | sleep => Unit

/-- The requests of the sender. -/
def sendInterface : Interface where
  Call := Call
  Reply := Call.Reply

/-- A program that talks to the endpoints. -/
abbrev Send (Value : Type) := Program sendInterface String Value

/-- One request to an endpoint. -/
abbrev ask (op : Call) : Send op.Reply := @Program.perform sendInterface String op

/-- Errors that the node also reports when the transaction is known or mined. -/
def sendErrorMayMeanLanded (error : String) : Bool :=
  mentionsAny
    ["nonce too low", "already known", "already exists", "already imported", "already in mempool"]
    (lowered error)

/-- Errors that a pooled transaction with the same nonce causes. -/
def nonceHeldByPooledTx (error : String) : Bool :=
  mentionsAny
    ["replacement transaction underpriced", "existing transaction had higher priority"]
    (lowered error)

/-- The node has no pending state to work on. -/
def isPendingStateError (error : String) : Bool :=
  mentions error "state not available for pending block"

/-- The next nonce that an error reports. -/
def parseExpectedNonce (error : String) : Option U64 :=
  (afterPart "next nonce ".toList error.toList).bind fun rest =>
    (parseBelow (2 ^ 64) (rest.takeWhile Char.isDigit)).map (BitVec.ofNat 64)

/-- How many rounds are broadcast. -/
def sendRounds : Nat := 3

/-- How often the call waits for a nonce that is held. -/
def nonceContentionAttempts : Nat := 5

/-- How many passes the loop makes. -/
def maxSendAttempts : Nat := 16

/-- Twice the fee, or the largest one. -/
def doubled (fee : U128) : U128 :=
  if fee.toNat * 2 < 2 ^ 128 then fee * 2 else BitVec.allOnes 128

/-- The fees of a replacement. -/
structure ReplacementFees where
  gasPrice : Option U128
  maxFeePerGas : Option U128
  maxPriorityFeePerGas : Option U128
  deriving DecidableEq

/-- Twice the fees of an envelope. -/
def ReplacementFees.doubledFrom (envelope : Envelope) : ReplacementFees :=
  match envelope.gasPrice with
  | some price => ⟨some (doubled price), none, none⟩
  | none => ⟨none, some (doubled envelope.maxFeePerGas), envelope.maxPriorityFeePerGas.map doubled⟩

/-- Preset the fees of a request. -/
def ReplacementFees.apply (fees : ReplacementFees)
    (request : TransactionRequest) : TransactionRequest :=
  { request with
    gasPrice := fees.gasPrice.or request.gasPrice
    maxFeePerGas := fees.maxFeePerGas.or request.maxFeePerGas
    maxPriorityFeePerGas := fees.maxPriorityFeePerGas.or request.maxPriorityFeePerGas }

/-- The request of a round, with what earlier rounds have fixed. -/
def roundRequest (tx : TransactionRequest) (nonceOverride gasOverride : Option U64)
    (replacementFees : Option ReplacementFees) : TransactionRequest :=
  let request := { tx with nonce := nonceOverride, gas := gasOverride.or tx.gas }
  match replacementFees with
  | some fees => fees.apply request
  | none => request

/-- What the loop of the call carries from pass to pass. -/
structure SendState where
  envelope : Option Envelope
  nonceOverride : Option U64
  replacementFees : Option ReplacementFees
  gasOverride : Option U64
  sentHashes : List Digest
  lastHash : Option Digest
  round : Nat
  contention : Nat
  pool : List Nat
  deriving DecidableEq

namespace SendState

/-- The state before the first round. -/
def initial (tx : TransactionRequest) (endpoints : List Nat) : SendState where
  envelope := none
  nonceOverride := tx.nonce
  replacementFees := none
  gasOverride := none
  sentHashes := []
  lastHash := none
  round := 0
  contention := 0
  pool := endpoints

/-- The state after an envelope was signed. -/
def signed (state : SendState) (envelope : Envelope) (hash : Digest) : SendState :=
  { state with
    envelope := some envelope
    lastHash := some hash
    sentHashes :=
      if hash ∈ state.sentHashes then state.sentHashes else state.sentHashes ++ [hash] }

/-- The state in which the call fills its request anew. -/
def restarted (state : SendState) (nonceOverride : Option U64) : SendState :=
  { state with
    nonceOverride := nonceOverride
    envelope := none
    replacementFees := none
    gasOverride := none }

/-- Start again after waiting for a nonce that is held, with another endpoint first. -/
def contended (state : SendState) (endpoints : List Nat) : SendState :=
  { state.restarted none with
    contention := state.contention + 1
    pool := endpoints.rotateLeft (state.contention + 1) }

/-- The state in which the call replaces its last envelope. -/
def replaced (state : SendState) : SendState :=
  match state.envelope with
  | none => { state with round := state.round + 1 }
  | some envelope =>
    { state with
      round := state.round + 1
      envelope := none
      nonceOverride := some envelope.nonce
      gasOverride := some envelope.gasLimit
      replacementFees := some (.doubledFrom envelope) }

end SendState

/-- Offer a transaction to every endpoint; the errors are in their order. -/
def offerAll (envelope : Envelope) : List Nat → Send (Bool × List String)
  | [] => .done (false, [])
  | endpoint :: rest => do
    let reply : Bool × Except String Unit ←
      ask (.sendRawTransaction endpoint envelope)
    let others ← offerAll envelope rest
    match reply.2 with
    | .ok _ => .done (true, others.2)
    | .error error => .done (others.1, error :: others.2)

/-- The error that is reported: one that says something about the nonce comes first. -/
def pickError (errors : List String) : Option String :=
  (errors.find? fun error =>
    sendErrorMayMeanLanded error || nonceHeldByPooledTx error).or errors.head?

variable (lib : Platform)

/-- Offer an envelope to all endpoints. -/
def broadcastOnce (pool : List Nat) (envelope : Envelope) : Send (Except String Digest) := do
  let outcome ← offerAll envelope pool
  if outcome.1 then
    .done (.ok (lib.txHash envelope))
  else do
    let error ← Program.orFail (pickError outcome.2) "no endpoint"
    .done (.error error)

/-- Offer an envelope, again after errors that are transient. -/
def broadcastRaw (pool : List Nat) (envelope : Envelope) : Send (Except String Digest) :=
  retryAsync fallbackAttempts
    (fun error => isTransientDefault error || isPendingStateError error)
    (ask .sleep) (broadcastOnce lib pool envelope)

/-- Whether an endpoint knows the hash. -/
def txKnownByHash (hash : Digest) : List Nat → Send Bool
  | [] => .done false
  | endpoint :: rest => do
    let found : Option Bool ← ask (.transactionByHash endpoint hash)
    if found = some true then .done true else txKnownByHash hash rest

/-- Whether an endpoint knows one of the hashes. -/
def anyTxKnownByHash (pool : List Nat) : List Digest → Send Bool
  | [] => .done false
  | hash :: rest => do
    let known ← txKnownByHash hash pool
    if known then .done true else anyTxKnownByHash pool rest

/-- The first receipt that an endpoint has for one of the hashes. -/
def findReceiptAny (pool : List Nat) (hashes : List Digest) : Send (Option Receipt) :=
  Program.firstSome
    (fun (entry : Digest × Nat) => do
      let found : Option (Option Receipt) ← ask (.transactionReceipt entry.2 entry.1)
      .done found.join)
    (hashes.flatMap fun hash => pool.map fun endpoint => (hash, endpoint))

/-- Look for a receipt a number of times. -/
def pollReceiptAny (pool : List Nat) (hashes : List Digest) : Nat → Send (Option Receipt)
  | 0 => findReceiptAny pool hashes
  | polls + 1 => do
    let found ← findReceiptAny pool hashes
    match found with
    | some receipt => .done (some receipt)
    | none => do
      ask .sleep
      pollReceiptAny pool hashes polls

/-- Look for a receipt until the time is over. -/
def waitReceiptAny (pool : List Nat) (hashes : List Digest) : Send (Option Receipt) := do
  let polls : Nat ← ask .polls
  pollReceiptAny pool hashes polls

/-- The envelope of this round; it is signed if there is none. -/
def currentEnvelope (tx : TransactionRequest) (state : SendState) : Send Envelope :=
  match state.envelope with
  | some envelope => .done envelope
  | none => do
    let signed : Except String Envelope ←
      ask
        (.fillAndSign state.pool
          (roundRequest tx state.nonceOverride state.gasOverride state.replacementFees))
    match signed with
    | .ok envelope => .done envelope
    | .error error => .fail error

/-- The state in which the call goes on after a failed broadcast, if it goes on. -/
def afterBroadcast (endpoints : List Nat) (label : String) (state : SendState)
    (sent : Except String Digest) : Send (Option SendState) :=
  match sent with
  | .ok _ => .done none
  | .error error =>
    if sendErrorMayMeanLanded error then do
      let known ← anyTxKnownByHash state.pool state.sentHashes
      if known then .done none else .done (some (state.restarted (parseExpectedNonce error)))
    else if nonceHeldByPooledTx error then
      if nonceContentionAttempts ≤ state.contention then
        .fail (label ++ ": nonce still held after 5 backoff attempts")
      else do
        ask .sleep
        .done (some (state.contended endpoints))
    else
      .fail error

/-- A hash as it is shown. -/
def hashText (hash : Digest) : String := "0x" ++ hexEncode hash

/-- The error at the end of all rounds. -/
def noReceipt (label : String) (lastHash : Option Digest) : String :=
  label ++ ": no receipt after 3 broadcast rounds" ++
    match lastHash with
    | some hash => " (last tx " ++ hashText hash ++ ")"
    | none => ""

/-- The loop of the sender. -/
def sendPasses (endpoints : List Nat) (tx : TransactionRequest)
    (label : String) : Nat → SendState → Send Receipt
  | 0, state => .fail (noReceipt label state.lastHash)
  | passes + 1, state =>
    if sendRounds ≤ state.round then
      .fail (noReceipt label state.lastHash)
    else do
      let envelope ← currentEnvelope tx state
      let state := state.signed envelope (lib.txHash envelope)
      let sent ← broadcastRaw lib state.pool envelope
      let again ← afterBroadcast endpoints label state sent
      match again with
      | some state => sendPasses endpoints tx label passes state
      | none => do
        let found ← waitReceiptAny state.pool state.sentHashes
        match found with
        | some receipt => .done receipt
        | none => sendPasses endpoints tx label passes state.replaced

/-- Sign, broadcast and wait for the receipt, with replacements. -/
def sendTxRobust (endpoints : List Nat) (tx : TransactionRequest) (label : String) : Send Receipt :=
  sendPasses lib endpoints tx label maxSendAttempts (.initial tx endpoints)

end Axe.EvmSend

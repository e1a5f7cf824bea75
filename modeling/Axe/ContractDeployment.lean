import Axe.EvmSend
import Axe.ProgramTraces
import Axe.Saturating

namespace Axe.LoadTesting

open Hardened (U64 U128 Address Digest)

/-!
# Deployment of the contract of a load test

A load test deploys its contract with one transaction.  Sending is repeated while errors look
transient.  No nonce is set, so each repetition signs at the next nonce of the account; only
the fallback after the repetitions fixes a nonce.

What came back for a send is not what happened at the node: a response can be lost after the
node accepted the transaction.
-/

/-- What a transport reports when a request fails, as far as the code looks at it. -/
inductive TransportError where
  | response (message : String) (isRetryErr : Bool)
  | transport
      (text : String) (isRetryErr : Bool) (httpStatus : Option Nat) (timeoutOrConnect : Bool)
  | other (text : String)
  deriving DecidableEq

/-- The text of an error as it is shown. -/
def TransportError.text : TransportError → String
  | .response message _ => message
  | .transport text _ _ _ => text
  | .other text => text

/-- The errors after which a request is repeated. -/
def isRetryableEvmTransport : TransportError → Bool
  | .response message isRetryErr => isRetryErr || EvmSend.isPendingStateError message
  | .transport _ isRetryErr httpStatus timeoutOrConnect =>
    isRetryErr || httpStatus.any (fun status => decide (502 ≤ status ∧ status ≤ 504)) ||
      timeoutOrConnect
  | .other _ => false

/-- A creation before it is signed; what is missing is filled in. -/
structure CreationRequest where
  code : Bytes
  sender : Option Address
  nonce : Option U64
  gasLimit : Option U64
  gasPrice : Option U128
  maxPriorityFeePerGas : Option U128
  maxFeePerGas : Option U128
  deriving DecidableEq

/-- A creation with nothing but its code. -/
def CreationRequest.ofCode (code : Bytes) : CreationRequest :=
  ⟨code, none, none, none, none, none, none⟩

/-- How a network charges, with what it reported. -/
inductive EvmFeeMode where
  | legacy (gasPrice : U128)
  | eip1559 (gasPrice baseFee suggestedTip : U128)
  deriving DecidableEq

/-- The larger one of two fees. -/
def largerFee (first second : U128) : U128 :=
  if first ≤ second then second else first

/-- Fill in the fees that the network asks for. -/
def EvmFeeMode.apply (request : CreationRequest) : EvmFeeMode → CreationRequest
  | .legacy gasPrice => { request with gasPrice := some gasPrice }
  | .eip1559 gasPrice baseFee suggestedTip =>
    let tip := largerFee (largerFee (saturatingSub gasPrice baseFee) suggestedTip) 1
    let maxFee := largerFee gasPrice (saturatingAdd (saturate 128 (baseFee.toNat * 2)) tip)
    { request with maxPriorityFeePerGas := some tip, maxFeePerGas := some maxFee }

theorem EvmFeeMode.apply_nonce (feeMode : EvmFeeMode) (request : CreationRequest) :
    (feeMode.apply request).nonce = request.nonce := by
  cases feeMode with
  | legacy gasPrice => rfl
  | eip1559 gasPrice baseFee suggestedTip => rfl

/-- The gas limit: six fifths of the estimate. -/
def withHeadroom (estimate : U64) : U64 := saturate 64 (estimate.toNat * 12) / 10

/-- The receipt, as far as the code reads it. -/
structure DeployReceipt where
  contractAddress : Option Address
  deriving DecidableEq

/-- The answer to a submission, and the nonce if the node accepted it. -/
structure SendReply where
  accepted : Option U64
  answer : Except TransportError Digest
  deriving DecidableEq

/-- What a deployment asks its node and its machine. -/
inductive DeployCall where
  | readArtifact (path : String)
  | estimateGas (request : CreationRequest)
  | sendTransaction (request : CreationRequest)
  | deployerAddress
  | transactionCount (sender : Address)
  | receipt (hash : Digest)
  | polls
  | sleep
  deriving DecidableEq

/-- What is answered to each request. -/
def DeployCall.Reply : DeployCall → Type
  | readArtifact _ => Except String Bytes
  | estimateGas _ => Except TransportError U64
  | sendTransaction _ => SendReply
  | deployerAddress => Option Address
  | transactionCount _ => Except TransportError U64
  | receipt _ => Except TransportError (Option DeployReceipt)
  | polls => Nat
  | sleep => Unit

/-- The requests of a deployment. -/
def deployInterface : Interface where
  Call := DeployCall
  Reply := DeployCall.Reply

/-- A program that talks to a node and can fail with a text. -/
abbrev Deploy (Value : Type) := Program deployInterface String Value

/-- One request to the node. -/
abbrev askNode (op : DeployCall) : Deploy op.Reply := @Program.perform deployInterface String op

/-- Fail with the text of the error. -/
def orText {Value : Type} (outcome : Except TransportError Value) : Deploy Value :=
  Program.check (outcome.mapError TransportError.text)

/-- The estimate of the gas, with repetitions. -/
def estimateDeployGas (request : CreationRequest) : Deploy U64 := do
  let outcome ← retryAsync fallbackAttempts (fun _ => true) (askNode .sleep)
    (askNode (.estimateGas request))
  orText outcome

/-- One submission of a creation. -/
def sendOnce (request : CreationRequest) : Deploy (Except TransportError Digest) := do
  let reply : SendReply ← askNode (.sendTransaction request)
  return reply.answer

/-- A submission that is repeated after errors of the transport. -/
def sendRetried (request : CreationRequest) : Deploy (Except TransportError Digest) :=
  retryAsync fallbackAttempts isRetryableEvmTransport (askNode .sleep) (sendOnce request)

/-- The nonce of the fallback: the one that the node expects, or the latest count. -/
def pinnedNonce (sender : Address) : Option U64 → Deploy U64
  | some nonce => .done nonce
  | none => do
    let outcome ← retryAsync fallbackAttempts (fun _ => true) (askNode .sleep)
      (askNode (.transactionCount sender))
    orText outcome

/-- The fallback: send with the nonce pinned, so that repetitions share it. -/
def deployPinned (deployCode : Bytes) (feeMode : EvmFeeMode)
    (nonceOverride : Option U64) : Deploy Digest := do
  let found : Option Address ← askNode .deployerAddress
  let sender ← Program.orFail found
    "latest-pinned deploy needs EVM_PRIVATE_KEY to derive the deployer address"
  let bare := { CreationRequest.ofCode deployCode with sender := some sender }
  let nonce ← pinnedNonce sender nonceOverride
  let estimate ← estimateDeployGas bare
  let sent ← sendRetried
    { feeMode.apply bare with nonce := some nonce, gasLimit := some (withHeadroom estimate) }
  orText sent

/-- Read the receipt of a deployment once, and go on if there is none yet. -/
def receiptOr (hash : Digest) (later : Deploy DeployReceipt) : Deploy DeployReceipt := do
  let outcome : Except TransportError (Option DeployReceipt) ← askNode (.receipt hash)
  match outcome with
  | .ok (some receipt) => .done receipt
  | _ => later

/-- Wait for the receipt until the deadline, which is some number of pauses away; each round
reads the receipt before it looks at the clock. -/
def awaitDeployReceipt (hash : Digest) : Nat → Deploy DeployReceipt
  | 0 => receiptOr hash
      (.fail ("deploy tx " ++ EvmSend.hashText hash ++ " timed out after 240s"))
  | pauses + 1 => receiptOr hash do
      let _ : Unit ← askNode .sleep
      awaitDeployReceipt hash pauses

/-- The send that was answered, or the fallback that its error calls for. -/
def pendingDeploy (deployCode : Bytes)
    (feeMode : EvmFeeMode) : Except TransportError Digest → Deploy Digest
  | .ok hash => .done hash
  | .error error =>
    if EvmSend.isPendingStateError error.text then
      deployPinned deployCode feeMode none
    else
      match EvmSend.parseExpectedNonce error.text with
      | some expected => deployPinned deployCode feeMode (some expected)
      | none => .fail error.text

/-- Deploy the code of an artifact and wait for the address. -/
def deployWithArtifact (artifactPath : String) (constructorArguments : Bytes)
    (feeMode : EvmFeeMode) : Deploy Address := do
  let artifact : Except String Bytes ← askNode (.readArtifact artifactPath)
  let bytecode ← Program.check artifact
  let deployCode := bytecode ++ constructorArguments
  let bare := CreationRequest.ofCode deployCode
  let estimate ← estimateDeployGas bare
  let sent ← sendRetried
    (feeMode.apply { bare with gasLimit := some (withHeadroom estimate) })
  let hash ← pendingDeploy deployCode feeMode sent
  let polls : Nat ← askNode .polls
  let receipt ← awaitDeployReceipt hash polls
  Program.orFail receipt.contractAddress "no contract address in receipt"

/-!
## What the node made of it
-/

/-- The nonce at which the node accepted a creation. -/
def acceptedNonce : Exchange deployInterface → Option U64
  | ⟨.sendTransaction _, reply⟩ => SendReply.accepted reply
  | _ => none

/-- The nonces of all creations that were accepted, in order. -/
def acceptedNonces (exchanges : List (Exchange deployInterface)) : List U64 :=
  exchanges.filterMap acceptedNonce

/-- The chain mines accepted creations, at most one for each nonce of the account. -/
def MinedFrom (exchanges : List (Exchange deployInterface)) (mined : List U64) : Prop :=
  mined.Nodup ∧ mined ⊆ acceptedNonces exchanges

/-- A creation with a preset nonce is signed with it. -/
def SignedAsAsked : Exchange deployInterface → Prop
  | ⟨.sendTransaction request, reply⟩ =>
    ∀ preset ∈ request.nonce, ∀ nonce ∈ SendReply.accepted reply, nonce = preset
  | _ => True

/-- A creation without a preset nonce that the node accepts is answered with its hash. -/
def Delivered : Exchange deployInterface → Prop
  | ⟨.sendTransaction request, reply⟩ =>
    request.nonce = none → (SendReply.accepted reply).isSome → (SendReply.answer reply).isOk = true
  | _ => True

/-- A creation without a preset nonce is signed at the next nonce of the account, which
counts the transactions that the node accepted. -/
def SignsNext : U64 → List (Exchange deployInterface) → Prop
  | _, [] => True
  | next, ⟨.sendTransaction request, reply⟩ :: rest =>
    match SendReply.accepted reply with
    | some nonce => (request.nonce = none → nonce = next) ∧ SignsNext (nonce + 1) rest
    | none => SignsNext next rest
  | next, _ :: rest => SignsNext next rest

/-- All transactions that were accepted have one nonce. -/
def OneNonce (exchanges : List (Exchange deployInterface)) : Prop :=
  ∃ nonce, ∀ accepted ∈ acceptedNonces exchanges, accepted = nonce

theorem acceptedNonces_append (first second : List (Exchange deployInterface)) :
    acceptedNonces (first ++ second) = acceptedNonces first ++ acceptedNonces second :=
  List.filterMap_append

variable {exchanges : List (Exchange deployInterface)}

theorem OneNonce.length_le_one {mined : List U64} (one : OneNonce exchanges)
    (minedFrom : MinedFrom exchanges mined) :
    mined.length ≤ 1 := by
  obtain ⟨nonce, same⟩ := one
  have all : ∀ found ∈ mined, found = nonce := fun found member => same found (minedFrom.2 member)
  rw [List.eq_replicate_of_mem all] at minedFrom ⊢
  rw [List.length_replicate]
  exact List.nodup_replicate.mp minedFrom.1

/-- The request is no submission. -/
def SendsNothing : DeployCall → Prop
  | .sendTransaction _ => False
  | _ => True

theorem acceptedNonces_eq_nil (nothing : ∀ exchange ∈ exchanges, SendsNothing exchange.1) :
    acceptedNonces exchanges = [] := by
  apply List.filterMap_eq_nil_iff.mpr
  rintro ⟨op, reply⟩ member
  cases op with
  | sendTransaction request => exact (nothing _ member).elim
  | _ => rfl

/-- Submissions are signed as asked, and those without a preset nonce are not lost. -/
def Kept (exchanges : List (Exchange deployInterface)) : Prop :=
  ∀ exchange ∈ exchanges, SignedAsAsked exchange ∧ Delivered exchange

theorem kept_append {first second : List (Exchange deployInterface)} :
    Kept (first ++ second) ↔ Kept first ∧ Kept second :=
  List.forall_mem_append

section Requests

variable {Value Failure : Type}

theorem only_retryTimes {isTransient : Failure → Bool}
    {request : Deploy (Except Failure Value)} (only : request.Only SendsNothing) (retries : Nat) :
    (retryTimes isTransient (askNode .sleep) request retries).Only SendsNothing := by
  induction retries with
  | zero => exact only
  | succ retries ih =>
    apply only.bind
    intro outcome
    cases outcome with
    | ok value => trivial
    | error error =>
      dsimp only
      split
      · exact ⟨trivial, fun _ => ih⟩
      · trivial

theorem only_askNode (op : DeployCall) (nothing : SendsNothing op) :
    (askNode op).Only SendsNothing :=
  ⟨nothing, fun _ => trivial⟩

theorem only_check (outcome : Except String Value) :
    (Program.check outcome : Deploy Value).Only SendsNothing := by
  cases outcome with
  | ok value => trivial
  | error error => trivial

theorem only_estimateDeployGas (request : CreationRequest) :
    (estimateDeployGas request).Only SendsNothing := by
  apply (only_retryTimes (only_askNode (.estimateGas request) trivial) _).bind
  intro outcome
  exact only_check _

theorem only_pinnedNonce (sender : Address) (nonceOverride : Option U64) :
    (pinnedNonce sender nonceOverride).Only SendsNothing := by
  cases nonceOverride with
  | some nonce => trivial
  | none =>
    apply (only_retryTimes (only_askNode (.transactionCount sender) trivial) _).bind
    intro outcome
    exact only_check _

theorem only_receiptOr (hash : Digest) {later : Deploy DeployReceipt}
    (only : later.Only SendsNothing) : (receiptOr hash later).Only SendsNothing := by
  apply (only_askNode (.receipt hash) trivial).bind
  intro outcome
  cases (outcome : Except TransportError (Option DeployReceipt)) with
  | error error => exact only
  | ok found =>
    cases found with
    | none => exact only
    | some receipt => trivial

theorem only_awaitDeployReceipt (hash : Digest) (pauses : Nat) :
    (awaitDeployReceipt hash pauses).Only SendsNothing := by
  induction pauses with
  | zero => exact only_receiptOr hash trivial
  | succ pauses ih => exact only_receiptOr hash ((only_askNode .sleep trivial).bind fun _ => ih)

theorem traces_after {program : Deploy Value} {later : Value → Deploy Failure}
    {ends : List (Exchange deployInterface) → Except String Failure → Prop}
    (only : program.Only SendsNothing)
    (same : ∀ first second outcome, (∀ exchange ∈ first, SendsNothing exchange.1) →
      ends second outcome → ends (first ++ second) outcome)
    (fails : ∀ error, ends [] (.error error))
    (rest : ∀ value, (later value).Traces ends) :
    (program.bind later).Traces ends := by
  apply (Program.Traces.of_only only).bind
  · intro exchanges error nothing
    simpa using same exchanges [] _ nothing (fails error)
  · intro exchanges value nothing
    exact (rest value).mono fun more outcome => same exchanges more outcome nothing

end Requests

theorem sendOnce_traces (request : CreationRequest) :
    (sendOnce request).Traces fun exchanges outcome =>
      ∃ reply : SendReply,
        exchanges = [⟨.sendTransaction request, reply⟩] ∧ outcome = .ok reply.answer :=
  fun reply => ⟨reply, rfl, rfl⟩

theorem retryTimes_pinned {request : CreationRequest} {nonce : U64}
    (preset : request.nonce = some nonce) (retries : Nat) :
    (retryTimes isRetryableEvmTransport (askNode .sleep) (sendOnce request) retries).Traces
      fun exchanges _ => Kept exchanges → ∀ found ∈ acceptedNonces exchanges, found = nonce := by
  have sends (reply : SendReply) (rest : List (Exchange deployInterface))
      (same : Kept rest → ∀ found ∈ acceptedNonces rest, found = nonce)
      (kept : Kept (⟨.sendTransaction request, reply⟩ :: rest)) :
      ∀ found ∈ acceptedNonces (⟨.sendTransaction request, reply⟩ :: rest), found = nonce := by
    intro found member
    obtain ⟨⟨signed, _⟩, keptRest⟩ := List.forall_mem_cons.mp kept
    change found ∈ acceptedNonces ([⟨.sendTransaction request, reply⟩] ++ rest) at member
    rw [acceptedNonces_append] at member
    rcases List.mem_append.mp member with here | later
    · obtain ⟨exchange, isHere, isFound⟩ := List.mem_filterMap.mp here
      cases List.mem_singleton.mp isHere
      exact signed nonce preset found isFound
    · exact same keptRest found later
  induction retries with
  | zero => exact fun reply => sends reply [] (fun _ _ member => by cases member)
  | succ retries ih =>
    apply (sendOnce_traces request).bind
    · rintro _ error ⟨reply, _, impossible⟩
      cases impossible
    rintro _ _ ⟨reply, rfl, ⟨⟩⟩
    cases reply.answer with
    | ok value => exact sends reply [] (fun _ _ member => by cases member)
    | error error =>
      dsimp only
      split
      · intro _
        apply ih.mono
        intro rest _ same
        apply sends reply
        intro kept
        exact same (List.forall_mem_cons.mp kept).2
      · exact sends reply [] (fun _ _ member => by cases member)

/-- Repeated sends without a preset nonce: nothing was accepted unless the last was answered. -/
theorem retryTimes_unpinned
    {request : CreationRequest}
    (free : request.nonce = none)
    (retries : Nat) :
    (retryTimes isRetryableEvmTransport (askNode .sleep) (sendOnce request) retries).Traces
      fun exchanges outcome =>
        Kept exchanges → ∃ answer, outcome = .ok answer ∧
            ((∃ error, answer = .error error) → acceptedNonces exchanges = []) ∧
            OneNonce exchanges := by
  have sends (reply : SendReply) (kept : Kept [⟨.sendTransaction request, reply⟩])
      (error : TransportError) (failed : reply.answer = .error error) : reply.accepted = none := by
    have delivered := (kept _ List.mem_cons_self).2 free
    cases accepted : reply.accepted with
    | none => rfl
    | some nonce =>
      have isOk := delivered (by simp [accepted])
      simp [failed, Except.isOk, Except.toBool] at isOk
  have single (reply : SendReply) (kept : Kept [⟨.sendTransaction request, reply⟩]) :
      ∃ answer : Except TransportError Digest,
        (Except.ok reply.answer : Except String _) = .ok answer ∧
          ((∃ error, answer = .error error) →
            acceptedNonces [⟨.sendTransaction request, reply⟩] = []) ∧
          OneNonce [⟨.sendTransaction request, reply⟩] := by
    refine ⟨reply.answer, rfl, ?_, ?_⟩
    · rintro ⟨error, failed⟩
      simp [acceptedNonces, acceptedNonce, sends reply kept error failed]
    · refine ⟨reply.accepted.getD 0, ?_⟩
      intro found member
      obtain ⟨exchange, isHere, isFound⟩ := List.mem_filterMap.mp member
      cases List.mem_singleton.mp isHere
      have isFound : reply.accepted = some found := isFound
      rw [isFound]
      rfl
  induction retries with
  | zero => exact single
  | succ retries ih =>
    apply (sendOnce_traces request).bind
    · rintro _ error ⟨reply, _, impossible⟩
      cases impossible
    rintro _ _ ⟨reply, rfl, ⟨⟩⟩
    have one := single reply
    cases answered : reply.answer with
    | ok value =>
      rw [answered] at one
      exact one
    | error error =>
      dsimp only
      split
      · intro paused
        apply ih.mono
        intro rest outcome described kept
        obtain ⟨keptHere, keptRest⟩ := List.forall_mem_cons.mp kept
        have refused := sends reply (List.forall_mem_singleton.mpr keptHere) error answered
        have same : acceptedNonces ([⟨.sendTransaction request, reply⟩] ++ ⟨.sleep, paused⟩ :: rest) =
            acceptedNonces rest := by
          have none : acceptedNonces [⟨.sendTransaction request, reply⟩] = [] := by
            simp [acceptedNonces, acceptedNonce, refused]
          rw [acceptedNonces_append, none]
          rfl
        unfold OneNonce
        rw [same]
        exact described (List.forall_mem_cons.mp keptRest).2
      · rw [answered] at one
        exact one

theorem oneNonce_after (first second : List (Exchange deployInterface))
    (nothing : ∀ exchange ∈ first, SendsNothing exchange.1)
    (one : Kept second → OneNonce second) (kept : Kept (first ++ second)) :
    OneNonce (first ++ second) := by
  unfold OneNonce
  rw [acceptedNonces_append, acceptedNonces_eq_nil nothing, List.nil_append]
  exact one (kept_append.mp kept).2

theorem oneNonce_nil : OneNonce [] := ⟨0, fun _ member => by cases member⟩

theorem traces_deployPinned (deployCode : Bytes) (feeMode : EvmFeeMode)
    (nonceOverride : Option U64) :
    (deployPinned deployCode feeMode nonceOverride).Traces
      fun exchanges _ => Kept exchanges → OneNonce exchanges := by
  have fails : ∀ error : String, (fun exchanges (_ : Except String Digest) =>
      Kept exchanges → OneNonce exchanges) [] (.error error) := fun _ _ => oneNonce_nil
  have after := fun first second (_ : Except String Digest) => oneNonce_after first second
  apply traces_after (only_askNode .deployerAddress trivial) after fails
  intro found
  apply traces_after (Program.only_orFail found _) after fails
  intro sender
  apply traces_after (only_pinnedNonce sender nonceOverride) after fails
  intro nonce
  apply traces_after (only_estimateDeployGas _) after fails
  intro estimate
  apply (@retryTimes_pinned _ nonce rfl _).bind
  · exact fun _ _ same kept => ⟨nonce, same kept⟩
  · intro exchanges outcome same
    apply (Program.Traces.of_only (only_check (outcome.mapError TransportError.text))).mono
    intro more _ nothing kept
    refine ⟨nonce, ?_⟩
    rw [acceptedNonces_append, acceptedNonces_eq_nil nothing, List.append_nil]
    exact same (kept_append.mp kept).1

theorem traces_oneNonce_before {Value : Type} {program : Deploy Value}
    (only : program.Only SendsNothing) (one : Kept exchanges → OneNonce exchanges) :
    program.Traces fun more _ => Kept (exchanges ++ more) → OneNonce (exchanges ++ more) := by
  apply (Program.Traces.of_only only).mono
  intro more _ nothing kept
  unfold OneNonce
  rw [acceptedNonces_append, acceptedNonces_eq_nil nothing, List.append_nil]
  exact one (kept_append.mp kept).1

theorem traces_pendingDeploy (deployCode : Bytes) (feeMode : EvmFeeMode)
    (sent : Except TransportError Digest)
    (before : Kept exchanges →
      ((∃ error, sent = .error error) → acceptedNonces exchanges = []) ∧ OneNonce exchanges) :
    (pendingDeploy deployCode feeMode sent).Traces
      fun more _ => Kept (exchanges ++ more) → OneNonce (exchanges ++ more) := by
  have pinned (nonceOverride : Option U64) (failed : ∃ error, sent = .error error) :
      (deployPinned deployCode feeMode nonceOverride).Traces
        fun more _ => Kept (exchanges ++ more) → OneNonce (exchanges ++ more) := by
    apply (traces_deployPinned deployCode feeMode nonceOverride).mono
    intro more _ one kept
    unfold OneNonce
    rw [acceptedNonces_append, (before (kept_append.mp kept).1).1 failed, List.nil_append]
    exact one (kept_append.mp kept).2
  cases sent with
  | ok hash => exact traces_oneNonce_before (by trivial) fun kept => (before kept).2
  | error error =>
    simp only [pendingDeploy]
    split
    · exact pinned none ⟨error, rfl⟩
    · split
      · exact pinned _ ⟨error, rfl⟩
      · exact traces_oneNonce_before (by trivial) fun kept => (before kept).2

/-- A deployment has at most one creation mined, whatever the node answers, if each creation
that is sent without a preset nonce and that the node accepts is answered with its hash. -/
theorem one_deployment_is_mined
    (artifactPath : String)
    (constructorArguments : Bytes)
    (feeMode : EvmFeeMode) :
    (deployWithArtifact artifactPath constructorArguments feeMode).Traces fun exchanges _ =>
      (∀ exchange ∈ exchanges, SignedAsAsked exchange) →
        (∀ exchange ∈ exchanges, Delivered exchange) →
          ∀ mined, MinedFrom exchanges mined → mined.length ≤ 1 := by
  suffices one : (deployWithArtifact artifactPath constructorArguments feeMode).Traces
      fun exchanges _ => Kept exchanges → OneNonce exchanges by
    apply one.mono
    intro exchanges _ single signed delivered mined minedFrom
    exact (single fun exchange member =>
      ⟨signed exchange member, delivered exchange member⟩).length_le_one minedFrom
  have fails : ∀ error : String, (fun exchanges (_ : Except String Address) =>
      Kept exchanges → OneNonce exchanges) [] (.error error) := fun _ _ => oneNonce_nil
  have after := fun first second (_ : Except String Address) => oneNonce_after first second
  apply traces_after (only_askNode (.readArtifact artifactPath) trivial)
    after fails
  intro artifact
  apply traces_after (only_check artifact) after fails
  intro bytecode
  apply traces_after (only_estimateDeployGas _) after fails
  intro estimate
  apply (retryTimes_unpinned (by rw [EvmFeeMode.apply_nonce]; rfl) _).bind
  · intro exchanges error described kept
    obtain ⟨_, impossible, _⟩ := described kept
    cases impossible
  · intro exchanges sent described
    have before (kept : Kept exchanges) :
        ((∃ error, sent = .error error) → acceptedNonces exchanges = []) ∧ OneNonce exchanges := by
      obtain ⟨_, same, rest⟩ := described kept
      cases same
      exact rest
    apply (traces_pendingDeploy (bytecode ++ constructorArguments) feeMode sent before).bind
    · exact fun _ _ one => one
    · intro more hash one
      have last : (do
          let polls : Nat ← askNode .polls
          let receipt ← awaitDeployReceipt hash polls
          Program.orFail receipt.contractAddress "no contract address in receipt" :
          Deploy Address).Only SendsNothing := by
        refine ⟨trivial, fun polls => ?_⟩
        apply (only_awaitDeployReceipt hash polls).bind
        exact fun receipt => Program.only_orFail _ _
      apply (traces_oneNonce_before last one).mono
      intro final _ holds
      rw [← List.append_assoc]
      exact holds

/-- A deployment whose creation is accepted at nonce 7, answered and mined. -/
def answered : List (Exchange deployInterface) :=
  let bare := CreationRequest.ofCode [0x60]
  let request := (EvmFeeMode.legacy 1).apply { bare with gasLimit := some 120 }
  [ ⟨DeployCall.readArtifact "artifacts/SenderReceiver.json", Except.ok [0x60]⟩,
    ⟨DeployCall.estimateGas bare, Except.ok 100⟩,
    ⟨DeployCall.sendTransaction request, SendReply.mk (some 7) (.ok [2])⟩,
    ⟨DeployCall.polls, (0 : Nat)⟩,
    ⟨DeployCall.receipt [2], Except.ok (some ⟨some 9⟩)⟩ ]

/-- A deployment that is answered at once. -/
theorem answered_deployment_is_mined_once :
    MinedFrom answered [7] ∧ ∀ mined, MinedFrom answered mined → mined.length ≤ 1 := by
  refine ⟨by simp [MinedFrom, answered, acceptedNonces, acceptedNonce], ?_⟩
  have reached := one_deployment_is_mined "artifacts/SenderReceiver.json" [] (.legacy 1)
    (Except.ok [0x60]) (Except.ok 100) ⟨some 7, .ok [2]⟩ (0 : Nat) (Except.ok (some ⟨some 9⟩))
  exact reached (by simp [SignedAsAsked, EvmFeeMode.apply, CreationRequest.ofCode])
    (by simp [Delivered, Except.isOk, Except.toBool])

/-- The first send is accepted at nonce 7 but times out; the second one is signed at nonce 8,
and both creations are mined. -/
theorem two_deployments_are_mined :
    ¬ (deployWithArtifact "artifacts/SenderReceiver.json" [] (.legacy 1)).Traces
      fun exchanges _ =>
        (∀ exchange ∈ exchanges, SignedAsAsked exchange) → SignsNext 7 exchanges →
          ∀ mined, MinedFrom exchanges mined → mined.length ≤ 1 := by
  intro traces
  have reached := traces (Except.ok [0x60]) (Except.ok 100)
    ⟨some 7, .error (.transport "operation timed out" false none true)⟩ ()
    ⟨some 8, .ok [2]⟩ (0 : Nat) (Except.ok none)
  have both := reached (by simp [SignedAsAsked, EvmFeeMode.apply, CreationRequest.ofCode])
    (by simp [SignsNext]) [7, 8]
    (by simp [MinedFrom, acceptedNonces, acceptedNonce])
  exact absurd both (by decide)

end Axe.LoadTesting

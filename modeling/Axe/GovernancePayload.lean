import Axe.Checks
import Axe.HardenedPlatform
import Axe.JsonValue

namespace Axe.Hardened

/-!
# The payload of a governance proposal

Before the deployment relies on a passed proposal, the proposal that the chain
reports is compared with the submission that was signed: a nested Protobuf message
on one side, JSON on the other, in which an inner message is a base64 text or a
JSON value.
-/

structure MsgExecuteContract where
  sender : String
  contract : String
  msg : Bytes
  funds : List Coin
  deriving DecidableEq

structure MsgSubmitProposal where
  messages : List AnyMessage
  title : String
  expedited : Bool
  deriving DecidableEq

/-- The decoders that the check uses. -/
structure PayloadFormats (Number : Type) where
  submitProposal : Bytes → Option MsgSubmitProposal
  executeContract : Bytes → Option MsgExecuteContract
  base64 : String → Option Bytes
  json : Bytes → Option (Json Number)

def submitProposalUrl : String := "/cosmos.gov.v1.MsgSubmitProposal"

def executeContractUrl : String := "/cosmwasm.wasm.v1.MsgExecuteContract"

/-- An expedited proposal can become a regular one, and not the other way round. -/
def validExpeditedTransition (submitted : Bool) : Option Bool → Bool
  | some actual => submitted || !actual
  | none => false

section Validation

variable {Number : Type}

/-- A coin as JSON. -/
def coinJson (coin : Coin) : Json Number :=
  .object [("amount", .text coin.amount), ("denom", .text coin.denom)]

/-- Funds as JSON. -/
def fundsJson (funds : List Coin) : Json Number := .array (funds.map coinJson)

variable [DecidableEq Number] (lib : Platform) (formats : PayloadFormats Number)

/-- The inner message of an execution: a base64 text is decoded. -/
def reportedPayload (msg : Json Number) : Except String (Json Number) :=
  match msg.asStr with
  | some text => do
    let decoded ← Check.orError (formats.base64 text) "invalid base64 text"
    Check.orError (formats.json decoded) "invalid JSON text"
  | none => .ok msg

/-- The reported execution is the one that was submitted. -/
def validateExecution (actual : Json Number) (message : AnyMessage) : Except String Unit := do
  Check.ensure
    (message.typeUrl = executeContractUrl ∧ actual.field "@type" = .text message.typeUrl)
    "unsupported governance execution"
  let expected ←
    Check.orError (formats.executeContract message.value) "failed to decode Protobuf message"
  let payload ← reportedPayload formats (actual.field "msg")
  Check.ensure
    (actual.field "sender" = .text expected.sender ∧
      actual.field "contract" = .text expected.contract)
    "governance execution differs from approved submission"
  -- The submitted message is parsed only once the sender and the contract agree.
  let submitted ← Check.orError (formats.json expected.msg) "invalid JSON text"
  Check.ensure
    (payload = submitted ∧ actual.field "funds" = fundsJson expected.funds)
    "governance execution differs from approved submission"

/-- The reported executions are those that were submitted, in order. -/
def validateExecutions : List (Json Number) → List AnyMessage → Except String Unit
  | actual :: rest, message :: more => do
    validateExecution formats actual message
    validateExecutions rest more
  | _, _ => .ok ()

/-- The only message of a transaction. -/
def singleMessage : List AnyMessage → Except String AnyMessage
  | [message] => .ok message
  | _ => .error "unexpected proposal transaction shape"

/-- The proposal on chain has the messages of the recorded transaction. -/
def validatePayload (raw : Bytes) (proposal : Json Number) : Except String Unit := do
  let tx ← Check.orError (lib.decodeTxRaw raw) "failed to decode Protobuf message"
  let body ←
    Check.orError (lib.decodeTxBody tx.bodyBytes) "failed to decode Protobuf message"
  let message ← singleMessage body.messages
  Check.ensure (message.typeUrl = submitProposalUrl) "unexpected proposal message"
  let expected ←
    Check.orError (formats.submitProposal message.value) "failed to decode Protobuf message"
  let actual ←
    Check.orError (proposal.field "messages").asArray "missing proposal messages"
  Check.ensure
    (actual.length = expected.messages.length ∧ proposal.field "title" = .text expected.title ∧
      validExpeditedTransition expected.expedited (proposal.field "expedited").asBool = true)
    "proposal content differs from approved submission"
  validateExecutions formats actual expected.messages

end Validation

/-- An execution of a contract: who, what, how and with which funds. -/
structure Execution (Number : Type) where
  sender : String
  contract : String
  funds : List Coin
  payload : Json Number

section Reading

variable {Number : Type}

/-- A coin from its JSON. -/
def readCoin : Json Number → Option Coin
  | .object [("amount", .text amount), ("denom", .text denom)] => some ⟨denom, amount⟩
  | _ => none

/-- Funds from their JSON. -/
def readFunds : Json Number → Option (List Coin)
  | .array coins => coins.mapM readCoin
  | _ => none

variable (formats : PayloadFormats Number)

/-- The inner message that the chain reports, as base64 text or as it is. -/
def readPayload : Json Number → Option (Json Number)
  | .text text => (formats.base64 text).bind formats.json
  | payload => some payload

/-- The execution that a proposal reports. -/
def reportedExecution (actual : Json Number) : Option (Execution Number) :=
  match actual.field "@type", actual.field "sender", actual.field "contract",
      readFunds (actual.field "funds"), readPayload formats (actual.field "msg") with
  | .text url, .text sender, .text contract, some funds, some payload =>
    if url = executeContractUrl then some ⟨sender, contract, funds, payload⟩ else none
  | _, _, _, _, _ => none

/-- The execution that a message asks for. -/
def submittedExecution (message : AnyMessage) : Option (Execution Number) :=
  if message.typeUrl = executeContractUrl then
    (formats.executeContract message.value).bind fun expected =>
      (formats.json expected.msg).map fun payload =>
        ⟨expected.sender, expected.contract, expected.funds, payload⟩
  else
    none

end Reading

/--
The chain reports the proposal that signed bytes submit: both stand for the same
executions in the same order, with the same title, and the proposal is expedited
only if the submission was.
-/
structure ReportsSubmission {Number : Type} (lib : Platform) (formats : PayloadFormats Number)
    (raw : Bytes) (proposal : Json Number) (submission : MsgSubmitProposal)
    (actual : List (Json Number)) (executions : List (Execution Number)) : Prop where
  submitted : ∃ tx body message, lib.decodeTxRaw raw = some tx ∧
        lib.decodeTxBody tx.bodyBytes = some body ∧ body.messages = [message] ∧
        message.typeUrl = submitProposalUrl ∧
        formats.submitProposal message.value = some submission
  title : proposal.field "title" = .text submission.title
  messages : proposal.field "messages" = .array actual
  reported : actual.map (reportedExecution formats) = executions.map some
  approved : submission.messages.map (submittedExecution formats) = executions.map some
  expedited : ∃ current : Bool, proposal.field "expedited" = .bool current ∧
        (current = true → submission.expedited = true)

section Exact

variable {Number : Type}

@[simp] theorem readCoin_eq_some {json : Json Number} {coin : Coin} :
    readCoin json = some coin ↔ json = coinJson coin := by
  constructor
  · intro reads
    unfold readCoin at reads
    split at reads
    · cases reads
      rfl
    · cases reads
  · rintro rfl
    rfl

@[simp] theorem readFunds_eq_some {json : Json Number} {funds : List Coin} :
    readFunds json = some funds ↔ json = fundsJson funds := by
  cases json with
  | array coins =>
    simp only [readFunds, fundsJson, Json.array.injEq]
    induction coins generalizing funds with
    | nil =>
      cases funds with
      | nil => simp
      | cons coin rest => simp
    | cons first others ih =>
      cases funds with
      | nil => simp [Option.bind_eq_some_iff]
      | cons coin rest => simp [List.mapM_cons, Option.bind_eq_some_iff, ih]
  | _ => simp [readFunds, fundsJson]

variable {lib : Platform} {formats : PayloadFormats Number}

variable {actual : Json Number} {execution : Execution Number}

theorem reportedExecution_eq_some : reportedExecution formats actual = some execution ↔
      actual.field "@type" = .text executeContractUrl ∧
        actual.field "sender" = .text execution.sender ∧
        actual.field "contract" = .text execution.contract ∧
        actual.field "funds" = fundsJson execution.funds ∧
        readPayload formats (actual.field "msg") = some execution.payload := by
  constructor
  · intro reported
    unfold reportedExecution at reported
    split at reported
    case h_1 url sender contract funds payload kind from_ at_ with_ message =>
      split at reported
      case isTrue named =>
        cases reported
        exact ⟨named ▸ kind, from_, at_, readFunds_eq_some.mp with_, message⟩
      case isFalse => cases reported
    case h_2 => cases reported
  · rintro ⟨kind, sender, contract, funds, message⟩
    have reads := readFunds_eq_some.mpr funds
    simp [reportedExecution, kind, sender, contract, reads, message]

variable {message : AnyMessage}

theorem submittedExecution_eq_some : submittedExecution formats message = some execution ↔
      message.typeUrl = executeContractUrl ∧ ∃ expected,
          formats.executeContract message.value = some expected ∧
            formats.json expected.msg = some execution.payload ∧
            expected.sender = execution.sender ∧
            expected.contract = execution.contract ∧
            expected.funds = execution.funds := by
  rcases execution with ⟨sender, contract, funds, payload⟩
  by_cases named : message.typeUrl = executeContractUrl
  · simp only [submittedExecution, named, if_true, true_and, Option.bind_eq_some_iff,
      Option.map_eq_some_iff, Execution.mk.injEq]
    constructor
    · rintro ⟨expected, decodes, payload', parses, sent, called, funded, rfl⟩
      exact ⟨expected, decodes, parses, sent, called, funded⟩
    · rintro ⟨expected, decodes, parses, sent, called, funded⟩
      exact ⟨expected, decodes, _, parses, sent, called, funded, rfl⟩
  · simp [submittedExecution, named]

@[simp] theorem reportedPayload_eq_ok {msg payload : Json Number} :
    reportedPayload formats msg = .ok payload ↔ readPayload formats msg = some payload := by
  cases msg with
  | text text => simp [reportedPayload, readPayload, Json.asStr, Option.bind_eq_some_iff]
  | _ => simp [reportedPayload, readPayload, Json.asStr]

variable {messages : List AnyMessage}

@[simp] theorem singleMessage_eq_ok :
    singleMessage messages = .ok message ↔ messages = [message] := by
  match messages with
  | [] => simp [singleMessage]
  | [only] => simp [singleMessage]
  | _ :: _ :: _ => simp [singleMessage]

theorem validExpeditedTransition_iff {submitted : Bool} {flag : Json Number} :
    validExpeditedTransition submitted flag.asBool = true ↔
      ∃ current : Bool, flag = .bool current ∧ (current = true → submitted = true) := by
  cases flag with
  | bool current => cases current <;> simp [validExpeditedTransition, Json.asBool]
  | _ => simp [validExpeditedTransition, Json.asBool]

variable [DecidableEq Number]

theorem validateExecution_eq_ok {done : Unit} :
    validateExecution formats actual message = .ok done ↔ ∃ execution,
        reportedExecution formats actual = some execution ∧
          submittedExecution formats message = some execution := by
  simp only [reportedExecution_eq_some, submittedExecution_eq_some, validateExecution,
    Check.bind_eq_ok, Check.ensure_eq_ok, Check.orError_eq_ok, reportedPayload_eq_ok]
  constructor
  · rintro ⟨_, ⟨named, kind⟩, expected, decodes, payload, reads, _, ⟨sender, contract⟩,
      submitted, parses, rfl, funds⟩
    exact ⟨⟨expected.sender, expected.contract, expected.funds, payload⟩,
        ⟨named ▸ kind, sender, contract, funds, reads⟩,
        named, expected, decodes, parses, rfl, rfl, rfl⟩
  · rintro ⟨execution, ⟨kind, sender, contract, funds, reads⟩, named, expected, decodes,
      parses, sent, called, funded⟩
    exact ⟨(), ⟨named, named ▸ kind⟩, expected, decodes, execution.payload, reads,
        (), ⟨sent ▸ sender, called ▸ contract⟩, execution.payload, parses, rfl,
        funded ▸ funds⟩

theorem validateExecutions_eq_ok {actual : List (Json Number)}
    (paired : actual.length = messages.length) :
    validateExecutions formats actual messages = .ok () ↔ ∃ executions : List (Execution Number),
        actual.map (reportedExecution formats) = executions.map some ∧
          messages.map (submittedExecution formats) = executions.map some := by
  induction actual generalizing messages with
  | nil =>
    have none : messages = [] := List.length_eq_zero_iff.mp paired.symm
    subst none
    constructor
    · intro _
      exact ⟨[], rfl, rfl⟩
    · intro _
      rfl
  | cons first rest ih =>
    cases messages with
    | nil => simp at paired
    | cons message more =>
      have tails : rest.length = more.length := by simpa using paired
      simp only [validateExecutions, Check.bind_eq_ok, validateExecution_eq_ok, ih tails]
      constructor
      · rintro ⟨_, ⟨execution, reported, submitted⟩, executions, reports, submits⟩
        exact ⟨execution :: executions, by simp [reported, reports], by simp [submitted, submits]⟩
      · rintro ⟨executions, reports, submits⟩
        cases executions with
        | nil => simp at reports
        | cons execution executions =>
          simp only [List.map_cons, List.cons.injEq] at reports submits
          exact ⟨(), ⟨execution, reports.1, submits.1⟩, executions, reports.2, submits.2⟩

/--
A proposal is accepted exactly when the signed bytes hold one submission and the chain
reports that submission.
-/
theorem governance_payload_check_is_exact
    (lib : Platform)
    (formats : PayloadFormats Number)
    (raw : Bytes)
    (proposal : Json Number) :
    validatePayload lib formats raw proposal = .ok () ↔ ∃ submission actual executions,
        ReportsSubmission lib formats raw proposal submission actual executions := by
  simp only [validatePayload, Check.bind_eq_ok, Check.ensure_eq_ok, Check.orError_eq_ok,
    singleMessage_eq_ok, Json.asArray_eq_some, validExpeditedTransition_iff]
  constructor
  · rintro ⟨tx, decodesTx, body, decodesBody, message, single, _, named, submission, decodes,
      actual, messages, _, ⟨counted, title, expedited⟩, accepted⟩
    rcases (validateExecutions_eq_ok counted).mp accepted with ⟨executions, reported, approved⟩
    exact ⟨submission, actual, executions,
        { submitted := ⟨tx, body, message, decodesTx, decodesBody, single, named, decodes⟩
          title := title
          messages := messages
          reported := reported
          approved := approved
          expedited := expedited }⟩
  · rintro ⟨submission, actual, executions, reports⟩
    rcases reports.submitted with
      ⟨tx, body, message, decodesTx, decodesBody, single, named, decodes⟩
    have counted : actual.length = submission.messages.length := by
      have reported := congrArg List.length reports.reported
      have approved := congrArg List.length reports.approved
      simp only [List.length_map] at reported approved
      exact reported.trans approved.symm
    exact ⟨tx, decodesTx, body, decodesBody, message, single, (), named, submission, decodes,
        actual, reports.messages, (), ⟨counted, reports.title, reports.expedited⟩,
        (validateExecutions_eq_ok counted).mpr ⟨executions, reports.reported, reports.approved⟩⟩

end Exact

end Axe.Hardened

import Axe.IntentQuotes
import Axe.ProgramCheck

namespace Axe.Intents

open Hardened (Address U256 TransactionRequest Receipt)

/-!
# Execution of intents

A leg of a route takes a quote, approves its input if that is needed, deposits it and
waits until the server reports the output.  A round trip is a leg and the leg back, which
starts from what the first one brought.

Sending a transaction until it is mined is one request here; its program is
`EvmSend.sendTxRobust`.  How often a status is read depends on a timeout and on the clock,
so the world says it.
-/

structure ChainRuntime where
  label : String
  rpcUrl : String
  deriving DecidableEq

/-- The chains and the funds of the wallet, as they are found. -/
structure RouteDiscovery where
  chains : List (String × ChainRuntime)
  assets : List WalletAsset
  deriving DecidableEq

/-- The state of a transfer as the server reports it. -/
inductive TransferState where
  | awaitingDeposit
  | pending
  | done
  | refunded
  | failed
  | notFound
  deriving DecidableEq

def TransferState.label : TransferState → String
  | awaitingDeposit => "awaiting deposit"
  | pending => "pending"
  | done => "done"
  | refunded => "refunded"
  | failed => "failed"
  | notFound => "not found"

structure StatusOutput where
  chain : String
  token : String
  amount : String
  deriving DecidableEq

structure Refund where
  chain : String
  token : String
  amount : String
  txHash : String
  deriving DecidableEq

/-- The status of a quote. -/
structure StatusResponse where
  quoteId : String
  state : TransferState
  output : Option StatusOutput
  refund : Option Refund
  deriving DecidableEq

/-- What the server answers to a request for quotes. -/
inductive QuoteAnswer where
  | failed (error : String)
  | unprocessable (message : String)
  | quotes (quotes : List Quote)
  deriving DecidableEq

/-- A quote, or the reason why there is none. -/
inductive QuoteOutcome where
  | available (quote : Quote)
  | unavailable (reason : String)
  deriving DecidableEq

/-- The requests of the commands to the server, to the chains and to the system. -/
inductive Call where
  | quote (request : QuoteRequest)
  | status (quoteId : String)
  | now
  | polls (timeout : Nat)
  | connect (rpcUrl : String)
  | allowance (rpcUrl : String) (token owner spender : Address)
  | sendTx (rpcUrl : String) (request : TransactionRequest) (label : String)
  deriving DecidableEq

/-- What is answered to each call. -/
def Call.Reply : Call → Type
  | quote _ => QuoteAnswer
  | status _ => Except String StatusResponse
  | now => Int
  | polls _ => Nat
  | connect _ => Except String Unit
  | allowance _ _ _ _ => Except String U256
  | sendTx _ _ _ => Except String Receipt

/-- The calls of the intent client. -/
def intentInterface : Interface where
  Call := Call
  Reply := Call.Reply

/-- A program of the intent client, which can fail with a text. -/
abbrev Intent (Value : Type) := Program intentInterface String Value

abbrev ask (op : Call) : Intent op.Reply := @Program.perform intentInterface String op

/-- The first intent quote of an answer. -/
def selectQuote : QuoteAnswer → Except String QuoteOutcome
  | .failed error => .error error
  | .unprocessable message => .ok (.unavailable message)
  | .quotes quotes =>
    match quotes.find? fun quote => quote.backend = .intent with
    | some quote => .ok (.available quote)
    | none => .ok (.unavailable "no intent quote returned")

def clientQuote (request : QuoteRequest) : Intent QuoteOutcome := do
  let answer : QuoteAnswer ← ask (.quote request)
  Program.check (selectQuote answer)

/-- A quote, or the reason why there is none as an error. -/
def requireQuote (request : QuoteRequest) : Intent Quote := do
  let outcome ← clientQuote request
  match outcome with
  | .available quote => .done quote
  | .unavailable reason => .fail ("intent quote unavailable: " ++ reason)

/-- What a leg is to trade, and its limits. -/
structure LegExecution where
  source : WalletAsset
  destination : WalletAsset
  orderType : OrderType
  amount : U256
  recipient : Address
  maxInputAmount : Option U256
  settlementContract : Address
  deriving DecidableEq

structure LegPlan where
  source : WalletAsset
  destination : WalletAsset
  orderType : OrderType
  requestedAmount : U256
  inputAmount : U256
  expectedOutput : U256
  settlementContract : Address
  request : QuoteRequest
  quote : Quote
  deriving DecidableEq

/-- What a leg is asked to do; its settlement contract was fixed when it was planned. -/
structure LegTerms where
  source : WalletAsset
  destination : WalletAsset
  orderType : OrderType
  amount : U256
  maxInputAmount : Option U256
  settlementContract : Address
  deriving DecidableEq

def LegExecution.terms (leg : LegExecution) : LegTerms :=
  ⟨leg.source, leg.destination, leg.orderType, leg.amount, leg.maxInputAmount,
    leg.settlementContract⟩

def LegPlan.terms (plan : LegPlan) : LegTerms :=
  ⟨plan.source, plan.destination, plan.orderType, plan.requestedAmount, none,
    plan.settlementContract⟩

/-- How much a round trip may put in. -/
inductive RoundTripInputBudget where
  | spendableBalance
  | capped (forward reverseTopUp : U256)
  deriving DecidableEq

/-- A planned round trip. -/
structure RoutePlan where
  source : WalletAsset
  destination : WalletAsset
  orderType : OrderType
  requestedAmount : U256
  inputAmount : U256
  expectedReturn : U256
  inputBudget : RoundTripInputBudget
  forwardSettlementContract : Address
  reverseSettlementContract : Address
  deriving DecidableEq

/-- What a leg put in and what came out. -/
structure LegResult where
  inputAmount : U256
  outputAmount : U256
  deriving DecidableEq

/-- A leg after its deposit. -/
structure SubmittedIntent where
  destination : WalletAsset
  selected : Quote
  inputAmount : U256
  deriving DecidableEq

/-- What the commands of one wallet share; the timeout is in nanoseconds. -/
structure IntentRuntime where
  formats : IntentFormats
  signer : Address
  fulfillmentTimeout : Nat

section Execution

variable (runtime : IntentRuntime) (chains : List (String × ChainRuntime))

/-- All checks of a quote before anything is sent; its input. -/
def validateSelected (selected : Quote) (terms : LegTerms) : Intent U256 := do
  let formats := runtime.formats
  Program.check
    (validateQuote formats selected terms.source terms.destination terms.orderType terms.amount)
  let now : Int ← ask .now
  Program.check (validateQuoteLifetime formats selected now)
  let inputAmount ← Program.check (parseAmount formats selected.input.amount)
  Program.check (validateInputLimit inputAmount terms.maxInputAmount)
  let settlement ←
    Program.check (validateQuoteActions formats selected terms.source inputAmount)
  Program.ensure (settlement = terms.settlementContract)
    "intent quote changed its settlement contract"
  return inputAmount

/-- A quote for a leg that passes the checks, with its input. -/
def quoteForExecution (leg : LegExecution) : Intent (Quote × U256) := do
  let selected ←
    requireQuote
      (quoteRequest runtime.formats leg.source leg.destination runtime.signer leg.recipient
        leg.orderType leg.amount)
  let inputAmount ← validateSelected runtime selected leg.terms
  return (selected, inputAmount)

/-- Connect to the chain of an asset. -/
def connectChain (source : WalletAsset) : Intent String := do
  let chain ←
    Program.orFail (chains.lookup source.id.chainId)
      ("no RPC resolved for " ++ source.id.chainId)
  let connected : Except String Unit ← ask (.connect chain.rpcUrl)
  Program.check connected
  return chain.rpcUrl

/-- The approvals that the allowance does not cover yet. -/
def approvalsBeyondAllowance (rpcUrl : String) (token : Address) (source : WalletAsset)
    (amount : U256) (approvalAmount : Option U256) : List Action → Intent (List Action)
  | [] => .done []
  | action :: rest => do
    let requirement ←
      Program.check (approvalRequirement runtime.formats action source amount)
    let read : Except String U256 ←
      ask (.allowance rpcUrl token runtime.signer requirement.spender)
    let allowance ←
      Program.check
        (read.mapError fun error => "could not read intent token allowance: " ++ error)
    let approvalAmount' := approvalAmount.getD requirement.amount
    Program.ensure (requirement.amount ≤ approvalAmount')
      "approval cap is below the quoted input"
    if allowance < approvalAmount' then do
      let bounded ← Program.check (approvalAction action requirement approvalAmount')
      let others ← approvalsBeyondAllowance rpcUrl token source amount approvalAmount rest
      return bounded :: others
    else
      approvalsBeyondAllowance rpcUrl token source amount approvalAmount rest

/-- The approvals that have to be sent. -/
def requiredApprovals (source : WalletAsset) (actions : List Action) (amount : U256)
    (approvalAmount : Option U256) : Intent (List Action) := do
  let rpcUrl ← connectChain chains source
  let token ← Program.check (sourceToken runtime.formats source)
  approvalsBeyondAllowance runtime rpcUrl token source amount approvalAmount actions

/-- Send the actions one after the other; each has to succeed. -/
def sendActions (rpcUrl : String) (source : WalletAsset)
    (label : String) : Option String → List Action → Intent (Option String)
  | lastHash, [] => .done lastHash
  | _, action :: rest => do
    let request ←
      Program.check
        (actionRequest runtime.formats action runtime.signer source.id.chainId)
    let sent : Except String Receipt ← ask (.sendTx rpcUrl request label)
    let receipt ← Program.check sent
    let hash := "0x" ++ hexEncode receipt.transactionHash
    Program.ensure (receipt.status = true)
      (label ++ " action '" ++ action.id ++ "' reverted in transaction " ++ hash)
    sendActions rpcUrl source label (some hash) rest

def executeActions (source : WalletAsset) (actions : List Action)
    (label : String) : Intent (Option String) := do
  let rpcUrl ← connectChain chains source
  sendActions runtime rpcUrl source label none actions

def approvalLabel : String := "intent approval"

def depositLabel : String := "intent deposit"

/-- Send the approvals that are missing. -/
def ensureInputApproval (source : WalletAsset) (selected : Quote)
    (inputAmount : U256) : Intent Unit := do
  let approvals := selected.actionsOf .approval
  if approvals = [] then
    .done ()
  else do
    let required ← requiredApprovals runtime chains source approvals inputAmount none
    if required = [] then
      .done ()
    else do
      let _ ← executeActions runtime chains source required approvalLabel
      let now : Int ← ask .now
      Program.check
        (Check.context "intent quote no longer has enough validity remaining after token approval"
          (validateQuoteLifetime runtime.formats selected now))

/-- Approve and deposit the input of a quote. -/
def submitSelectedLeg (source destination : WalletAsset) (selected : Quote)
    (inputAmount : U256) : Intent SubmittedIntent := do
  ensureInputApproval runtime chains source selected inputAmount
  let deposit ← Program.check (depositAction runtime.formats selected source inputAmount)
  let depositHash ← executeActions runtime chains source [deposit] depositLabel
  let _ ← Program.orFail depositHash "intent quote had no deposit transaction"
  return ⟨destination, selected, inputAmount⟩

/-- The refund returns the input of the quote. -/
def validateRefund (refund : Refund) (quote : Quote) : Except String Unit := do
  let mismatch := "RFQ refund does not match the deposited input"
  Check.ensure
    (refund.chain = quote.input.chain ∧ eqIgnoreAsciiCase refund.token quote.input.token = true)
    mismatch
  let refunded ← parseAmount runtime.formats refund.amount
  let deposited ← parseAmount runtime.formats quote.input.amount
  Check.ensure (refunded = deposited) mismatch

/-- The reported output is the asset that was asked for, and not below the minimum. -/
def validateStatusOutput (output : StatusOutput) (expected : WalletAsset)
    (quote : Quote) : Except String Unit := do
  Check.ensure
    (output.chain = expected.id.chainId ∧
      eqIgnoreAsciiCase output.token expected.id.tokenAddress = true)
    "RFQ DONE output does not match the requested destination asset"
  let brought ← parseAmount runtime.formats output.amount
  let promised ←
    parseAmount runtime.formats (quote.output.minimumAmount.getD quote.output.amount)
  Check.ensure (promised ≤ brought) "RFQ DONE output is below the quoted minimum"

/-- How long to wait: as configured, or to a little after the deadline of the quote. -/
def effectiveTimeout (quote : Quote) (configured : Nat) (now : Int) : Nat :=
  match quote.fulfillmentDeadline with
  | none => configured
  | some deadline =>
    if now ≤ deadline then min ((deadline - now).toNat + 30000000000) configured else configured

/-- The refund that is known after a status; a new one must match the deposit. -/
def noteRefund (quote : Quote)
    (refundTx : Option String) : Option Refund → Except String (Option String)
  | none => .ok refundTx
  | some refund =>
    if refundTx = some refund.txHash then
      .ok refundTx
    else do
      validateRefund runtime refund quote
      return some refund.txHash

/-- The output of a fulfilled intent; nothing while it is open. -/
def statusOutcome (quote : Quote) (expected : WalletAsset)
    (status : StatusResponse) : Except String (Option StatusOutput) :=
  match status.state with
  | .done => do
    let output ← Check.orError status.output "DONE status omitted output"
    validateStatusOutput runtime output expected quote
    return some output
  | .refunded => .error ("intent " ++ quote.quoteId ++ " was refunded")
  | .failed => .error ("intent " ++ quote.quoteId ++ " failed")
  | .awaitingDeposit | .pending | .notFound => .ok none

/-- What earlier looks have seen. -/
structure StatusSeen where
  lastState : Option TransferState
  refundTx : Option String
  deriving DecidableEq

/-- One look at the status of a quote. -/
def readStatus (quote : Quote) (expected : WalletAsset)
    (seen : StatusSeen) : Intent (Option StatusOutput × StatusSeen) := do
  let answer : Except String StatusResponse ← ask (.status quote.quoteId)
  match answer with
  | .error _ => .done (none, seen)
  | .ok status => do
    Program.ensure (status.quoteId = quote.quoteId)
      "RFQ status returned a different quote ID"
    let refundTx ← Program.check (noteRefund runtime quote seen.refundTx status.refund)
    let found ← Program.check (statusOutcome runtime quote expected status)
    return (found, ⟨some status.state, refundTx⟩)

def fulfillmentTimedOut (quote : Quote) (seen : StatusSeen) : String :=
  "intent " ++ quote.quoteId ++ " did not fulfill before timeout (last state: " ++
    seen.lastState.elim "unknown" TransferState.label ++ "; refund: " ++
    seen.refundTx.getD "not submitted" ++ ")"

/-- Read the status until the intent is fulfilled, a number of times. -/
def pollStatus (quote : Quote) (expected : WalletAsset) : Nat → StatusSeen → Intent StatusOutput
  | 0, seen => do
    let outcome ← readStatus runtime quote expected seen
    match outcome.1 with
    | some output => .done output
    | none => .fail (fulfillmentTimedOut quote outcome.2)
  | polls + 1, seen => do
    let outcome ← readStatus runtime quote expected seen
    match outcome.1 with
    | some output => .done output
    | none => pollStatus quote expected polls outcome.2

/-- Look at the status until the output is reported. -/
def waitForFulfillment (quote : Quote) (expected : WalletAsset) : Intent StatusOutput := do
  let now : Int ← ask .now
  let polls : Nat ← ask (.polls (effectiveTimeout quote runtime.fulfillmentTimeout now))
  pollStatus runtime quote expected polls ⟨none, none⟩

/-- Wait for the output of a submitted leg. -/
def finishSubmittedIntent (submitted : SubmittedIntent) : Intent LegResult := do
  let output ← waitForFulfillment runtime submitted.selected submitted.destination
  let outputAmount ← Program.check (parseAmount runtime.formats output.amount)
  return ⟨submitted.inputAmount, outputAmount⟩

/-- Ask for a quote, check it and deposit. -/
def submitLeg (leg : LegExecution) : Intent SubmittedIntent := do
  let selected ← quoteForExecution runtime leg
  submitSelectedLeg runtime chains leg.source leg.destination selected.1 selected.2

/-- A leg from its quote to its output. -/
def executeLeg (leg : LegExecution) : Intent LegResult := do
  let submitted ← submitLeg runtime chains leg
  finishSubmittedIntent runtime submitted

/-- A leg whose quote is there already. -/
def executePlannedLeg (plan : LegPlan) : Intent LegResult := do
  let inputAmount ← validateSelected runtime plan.quote plan.terms
  let submitted ←
    submitSelectedLeg runtime chains plan.source plan.destination plan.quote inputAmount
  finishSubmittedIntent runtime submitted

/-- The first leg of a plan. -/
def forwardLeg (plan : RoutePlan) : LegExecution where
  source := plan.source
  destination := plan.destination
  orderType := plan.orderType
  amount := plan.requestedAmount
  recipient := runtime.signer
  maxInputAmount :=
    match plan.inputBudget with
    | .spendableBalance => none
    | .capped forward _ => some forward
  settlementContract := plan.forwardSettlementContract

/-- The limit of the second input: what was received and the top up. -/
def reverseInputLimit (plan : RoutePlan) (forward : LegResult) : Except String (Option U256) :=
  match plan.inputBudget with
  | .spendableBalance => .ok none
  | .capped _ reverseTopUp => do
    let limit ←
      Check.orError (checkedAdd forward.outputAmount reverseTopUp)
        (plan.destination.label ++ " input limit overflowed")
    return some limit

/-- The second leg, given the result of the first. -/
def reverseLeg (plan : RoutePlan) (forward : LegResult) : Except String LegExecution := do
  let balance ←
    Check.orError (checkedAdd plan.destination.balance forward.outputAmount)
      (plan.destination.label ++ " balance overflowed")
  let limit ← reverseInputLimit plan forward
  return {
    source := { plan.destination with balance := balance }
    destination := plan.source
    orderType := plan.orderType
    amount :=
      match plan.orderType with
      | .exactInput => forward.outputAmount
      | .exactOutput => forward.inputAmount
    recipient := runtime.signer
    maxInputAmount := limit
    settlementContract := plan.reverseSettlementContract }

end Execution

end Axe.Intents

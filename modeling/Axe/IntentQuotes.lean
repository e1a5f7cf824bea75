import Axe.CheckedArithmetic
import Axe.Checks
import Axe.DecimalText
import Axe.HardenedPlatform
import Axe.HexText

namespace Axe.Intents

open Hardened (Address U64 U256 TransactionRequest)

/-!
# Quotes of the RFQ server

A quote names assets and amounts and brings the actions that deposit its input.  All of
it is text of a server that is not trusted, so it is checked against the request before
anything is signed, and read again where transactions are built.
-/

/-- Which of the two amounts an order fixes. -/
inductive OrderType where
  | exactInput
  | exactOutput
  deriving DecidableEq

/-- A token on a chain. -/
structure AssetId where
  chainId : String
  tokenAddress : String
  deriving DecidableEq

/-- An asset with the balance of the wallet. -/
structure WalletAsset where
  id : AssetId
  chainLabel : String
  symbol : String
  decimals : Nat
  balance : U256
  native : Bool
  deriving DecidableEq

def WalletAsset.label (asset : WalletAsset) : String := asset.chainLabel ++ "/" ++ asset.symbol

/-- Who fulfils a quote. -/
inductive BackendType where
  | intent
  | its
  | gateway
  | gatewayExpress
  deriving DecidableEq

structure QuoteInput where
  chain : String
  token : String
  amount : String
  deriving DecidableEq

structure QuoteOutput where
  chain : String
  token : String
  amount : String
  minimumAmount : Option String
  deriving DecidableEq

/-- What an action is for. -/
inductive ActionKind where
  | approval
  | transaction
  | depositAddress
  deriving DecidableEq

/-- A transaction as the server describes it. -/
structure EvmTransactionPayload where
  sender : Option String
  target : String
  data : String
  value : String
  deriving DecidableEq

inductive ActionPayload where
  | evmTransaction (payload : EvmTransactionPayload)
  | solanaInstructions
  | depositAddress
  deriving DecidableEq

/-- Something that the wallet is to send. -/
structure Action where
  id : String
  kind : ActionKind
  chain : String
  payload : ActionPayload
  deriving DecidableEq

/-- A quote, as far as the code reads it. -/
structure Quote where
  quoteId : String
  backend : BackendType
  quoteExpiresAt : Int
  fulfillmentDeadline : Option Int
  input : QuoteInput
  output : QuoteOutput
  actions : List Action
  deriving DecidableEq

/-- What is asked of the server. -/
structure QuoteRequest where
  fromChain : String
  fromToken : String
  toChain : String
  toToken : String
  amount : String
  orderType : OrderType
  sender : String
  recipient : String
  deriving DecidableEq

/-- How addresses, amounts and times are read and written. -/
structure IntentFormats where
  parseAddress : String → Option Address
  showAddress : Address → String
  parseU256 : String → Option U256
  showSeconds : Nat → String

def gasReserveWei : U256 := 1000000000000000

def minQuoteLifetime : Nat := 10000000000

/-- What can be spent: a native coin keeps the gas reserve. -/
def spendableBalance (asset : WalletAsset) : Option U256 :=
  if asset.native then checkedSub asset.balance gasReserveWei else some asset.balance

/-- An amount as a text with a decimal point. -/
def formatUnits (amount : U256) (decimals : Nat) : String :=
  let digits := Nat.toDigits 10 amount.toNat
  if decimals = 0 then
    String.ofList digits
  else
    let padded :=
      if digits.length ≤ decimals then
        List.replicate (decimals + 1 - digits.length) '0' ++ digits
      else
        digits
    let split := padded.length - decimals
    let fraction := ((padded.drop split).reverse.dropWhile (· = '0')).reverse
    if fraction = [] then
      String.ofList (padded.take split)
    else
      String.ofList (padded.take split ++ '.' :: fraction)

/-- The request for a quote. -/
def quoteRequest (formats : IntentFormats) (source destination : WalletAsset)
    (sender recipient : Address) (orderType : OrderType) (amount : U256) : QuoteRequest where
  fromChain := source.id.chainId
  fromToken := source.id.tokenAddress
  toChain := destination.id.chainId
  toToken := destination.id.tokenAddress
  amount := decimalText amount.toNat
  orderType := orderType
  sender := formats.showAddress sender
  recipient := formats.showAddress recipient

section Validation

variable (formats : IntentFormats)

def parseAmount (value : String) : Except String U256 :=
  Check.orError (formats.parseU256 value) ("invalid base-unit amount '" ++ value ++ "'")

/-- The wallet can spend the amount. -/
def ensureInputIsSpendable (source : WalletAsset) (amount : U256) : Except String Unit := do
  let spendable ←
    Check.orError (spendableBalance source)
      (source.label ++ " has no balance after the gas reserve")
  Check.ensure (amount ≤ spendable)
    ("requested " ++ formatUnits amount source.decimals ++ " " ++ source.symbol ++
      ", but only " ++ formatUnits spendable source.decimals ++ " is spendable")

/-- The amount that the type of the order fixes. -/
def Quote.fixedAmount (quote : Quote) : OrderType → String
  | .exactInput => quote.input.amount
  | .exactOutput => quote.output.amount

/-- The quote is for the requested assets, and fixes the requested amount. -/
def validateQuoteRoute (quote : Quote) (source destination : AssetId) (orderType : OrderType)
    (requestedAmount : U256) : Except String Unit := do
  let fixedAmount ← parseAmount formats (quote.fixedAmount orderType)
  Check.ensure
    (quote.backend = .intent ∧ quote.input.chain = source.chainId ∧
      eqIgnoreAsciiCase quote.input.token source.tokenAddress = true ∧
      quote.output.chain = destination.chainId ∧
      eqIgnoreAsciiCase quote.output.token destination.tokenAddress = true ∧
      fixedAmount = requestedAmount)
    "RFQ returned a quote that does not match the requested route"

/-- The quote is the requested one, and the wallet can pay for it. -/
def validateQuote (quote : Quote) (source destination : WalletAsset) (orderType : OrderType)
    (requestedAmount : U256) : Except String Unit := do
  validateQuoteRoute formats quote source.id destination.id orderType requestedAmount
  let inputAmount ← parseAmount formats quote.input.amount
  Check.context
    ("quote requires " ++ formatUnits inputAmount source.decimals ++ " " ++ source.symbol ++
      " of input")
    (ensureInputIsSpendable source inputAmount)

def Quote.quoteExpiresIn (quote : Quote) (now : Int) : Nat := (quote.quoteExpiresAt - now).toNat

/-- The quote is valid for long enough. -/
def validateQuoteLifetime (quote : Quote) (now : Int) : Except String Unit :=
  Check.ensure (minQuoteLifetime ≤ quote.quoteExpiresIn now)
    ("quote " ++ quote.quoteId ++ " has only " ++
      formats.showSeconds (quote.quoteExpiresIn now) ++ "s of validity remaining")

/-- The input is at most the maximum. -/
def validateInputLimit (input : U256) (maximum : Option U256) : Except String Unit :=
  Check.ensure (maximum.all (input ≤ ·) = true)
    "quote requires more input than the route's wallet safety limit"

/-- The transaction of an action. -/
def actionPayload (action : Action) : Except String EvmTransactionPayload :=
  match action.payload with
  | .evmTransaction payload => .ok payload
  | .solanaInstructions | .depositAddress =>
    .error ("action '" ++ action.id ++ "' is not an EVM transaction")

/-- Calldata; its usual start may be missing, and the decoder takes one off by itself. -/
def decodeData (action : Action) (data : String) : Except String Bytes :=
  Check.orError (hexDecodeLoose ((afterStart "0x" data).getD data))
    ("action '" ++ action.id ++ "' has invalid calldata")

def parseTarget (action : Action) (target : String) : Except String Address :=
  Check.orError (formats.parseAddress target)
    ("action '" ++ action.id ++ "' has an invalid target")

def parseValue (action : Action) (value : String) : Except String U256 :=
  Check.orError (formats.parseU256 value)
    ("action '" ++ action.id ++ "' has an invalid value")

/-- Who is to be approved, for how much. -/
structure ApprovalRequirement where
  spender : Address
  amount : U256
  deriving DecidableEq

def approveSelector : Bytes := [0x09, 0x5e, 0xa7, 0xb3]

/-- The data of an approval. -/
def approveCalldata (spender : Address) (amount : U256) : Bytes :=
  approveSelector ++ List.replicate 12 0 ++ Codec.bigEndian 20 spender.toNat ++
    Codec.bigEndian 32 amount.toNat

/-- The contract of the source token. -/
def sourceToken (source : WalletAsset) : Except String Address :=
  Check.orError (formats.parseAddress source.id.tokenAddress)
    "source token has an invalid EVM address"

/-- The spender and the amount of an approval of the source token that suffices. -/
def approvalRequirement (action : Action) (source : WalletAsset)
    (amount : U256) : Except String ApprovalRequirement := do
  Check.ensure (source.native = false) "native-token quote unexpectedly requested approval"
  let payload ← actionPayload action
  let target ← parseTarget formats action payload.target
  let token ← sourceToken formats source
  let value ← parseValue formats action payload.value
  let data ← decodeData action payload.data
  Check.ensure (target = token ∧ value = 0 ∧ data.length = 68)
    ("action '" ++ action.id ++ "' is not a sufficient approval of the source token")
  let requirement : ApprovalRequirement :=
    ⟨BitVec.ofNat 160 (Codec.fromBigEndian ((data.drop 16).take 20)),
      BitVec.ofNat 256 (Codec.fromBigEndian (data.drop 36))⟩
  Check.ensure (data.take 4 = approveSelector ∧ amount ≤ requirement.amount)
    ("action '" ++ action.id ++ "' is not a sufficient approval of the source token")
  return requirement

/-- The deposit pays the quoted input; its target. -/
def validateDepositAction (action : Action) (source : WalletAsset)
    (amount : U256) : Except String Address := do
  let payload ← actionPayload action
  let target ← parseTarget formats action payload.target
  let value ← parseValue formats action payload.value
  Check.ensure
    (value = (if source.native then amount else 0) ∧ payload.data ≠ "0x" ∧ payload.data ≠ "")
    ("action '" ++ action.id ++ "' deposit value or calldata does not match the quoted input")
  return target

/-- The actions of one kind. -/
def Quote.actionsOf (quote : Quote) (kind : ActionKind) : List Action :=
  quote.actions.filter fun action => action.kind = kind

def onlyDeposit (quote : Quote) : Except String Action :=
  match quote.actionsOf .transaction with
  | [deposit] => .ok deposit
  | deposits =>
    .error ("intent quote " ++ quote.quoteId ++ " returned " ++ decimalText deposits.length ++
      " transaction actions; expected exactly one deposit")

/-- One deposit, and at most one approval, which is for the contract of the deposit. -/
def validateQuoteActions (quote : Quote) (source : WalletAsset)
    (inputAmount : U256) : Except String Address := do
  let deposit ← onlyDeposit quote
  let settlement ← validateDepositAction formats deposit source inputAmount
  if source.native then do
    Check.ensure (quote.actionsOf .approval = [])
      "native-token quote unexpectedly requested approval"
    return settlement
  else
    match quote.actionsOf .approval with
    | [] => .ok settlement
    | [approval] => do
      let requirement ← approvalRequirement formats approval source inputAmount
      Check.ensure (requirement.spender = settlement)
        "intent approval spender does not match the deposit contract"
      return settlement
    | approvals =>
      .error ("token quote returned " ++ decimalText approvals.length ++
        " approval actions; expected at most one")

/-- The only deposit of a quote, checked. -/
def depositAction (quote : Quote) (source : WalletAsset) (amount : U256) : Except String Action :=
  match quote.actionsOf .transaction with
  | [] => .error "intent quote had no deposit transaction"
  | [deposit] => do
    let _ ← validateDepositAction formats deposit source amount
    return deposit
  | _ => .error "intent quote returned multiple deposit transactions"

/-- The approval with another amount. -/
def approvalAction (action : Action) (requirement : ApprovalRequirement)
    (amount : U256) : Except String Action := do
  Check.ensure (requirement.amount ≤ amount) "approval amount is below the quoted input"
  let payload ← actionPayload action
  return { action with
    payload := .evmTransaction
      { payload with
        data := "0x" ++ hexEncode (approveCalldata requirement.spender amount) } }

/-- The action is for this signer. -/
def validateSender (action : Action) (payload : EvmTransactionPayload)
    (signer : Address) : Except String Unit :=
  match payload.sender with
  | none => .ok ()
  | some text => do
    let sender ←
      Check.orError (formats.parseAddress text)
        ("action '" ++ action.id ++ "' has an invalid from address")
    Check.ensure (sender = signer)
      ("action '" ++ action.id ++ "' sender " ++ formats.showAddress sender ++
        " does not match axe wallet " ++ formats.showAddress signer)

def parseChainId (chain : String) : Except String U64 := do
  let reference ←
    Check.orError (afterStart "eip155:" chain) ("expected an EVM chain ID, got " ++ chain)
  let number ←
    Check.orError (parseUnsigned (2 ^ 64) reference) ("invalid EVM chain ID " ++ chain)
  return BitVec.ofNat 64 number

/-- The transaction of an action on the expected chain. -/
def actionRequest (action : Action) (signer : Address)
    (expectedChain : String) : Except String TransactionRequest := do
  Check.ensure (action.chain = expectedChain)
    ("action '" ++ action.id ++ "' targets " ++ action.chain ++ ", expected " ++ expectedChain)
  let payload ← actionPayload action
  validateSender formats action payload signer
  let target ← parseTarget formats action payload.target
  let data ← decodeData action payload.data
  let value ← parseValue formats action payload.value
  let chainId ← parseChainId expectedChain
  return {
    chainId := some chainId
    fromAddress := some signer
    destination := some (.call target)
    input := some data
    value := some value }

end Validation

end Axe.Intents

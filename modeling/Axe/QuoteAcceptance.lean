import Axe.IntentExecution

namespace Axe.Intents

open Hardened (Address U64 U256 TransactionRequest)

/-!
# What an accepted quote says

The checks of a quote are spread over several functions, and the transactions are built
from its text by others.  Here each of them is inverted once: what a quote that passes says
about the request, and which transactions its actions become.
-/

variable {formats : IntentFormats}

/-- A quote is for the assets and the amount of the request and asks for an input it may have. -/
structure Fits (formats : IntentFormats) (terms : LegTerms) (quote : Quote)
    (input : U256) : Prop where
  backend : quote.backend = .intent
  sourceChain : quote.input.chain = terms.source.id.chainId
  sourceToken : eqIgnoreAsciiCase quote.input.token terms.source.id.tokenAddress = true
  destinationChain : quote.output.chain = terms.destination.id.chainId
  destinationToken : eqIgnoreAsciiCase quote.output.token terms.destination.id.tokenAddress = true
  fixed : formats.parseU256 (quote.fixedAmount terms.orderType) = some terms.amount
  inputAmount : formats.parseU256 quote.input.amount = some input
  withinLimit : ∀ limit, terms.maxInputAmount = some limit → input ≤ limit
  withinBalance : ∃ spendable, spendableBalance terms.source = some spendable ∧ input ≤ spendable

@[simp] theorem parseAmount_eq_ok {text : String} {amount : U256} :
    parseAmount formats text = .ok amount ↔ formats.parseU256 text = some amount :=
  Check.orError_eq_ok

theorem fits_of_checks {terms : LegTerms} {quote : Quote} {input : U256}
    (valid : validateQuote formats quote terms.source terms.destination terms.orderType
        terms.amount = .ok ())
    (parsed : parseAmount formats quote.input.amount = .ok input)
    (limited : validateInputLimit input terms.maxInputAmount = .ok ()) :
    Fits formats terms quote input := by
  simp only [validateQuote, validateQuoteRoute, Check.bind_eq_ok, Check.context_eq_ok,
    ensureInputIsSpendable, Check.orError_eq_ok, Check.ensure_eq_ok] at valid
  obtain ⟨_, ⟨fixed, read, backend, sourceChain, sourceToken, destinationChain,
    destinationToken, same⟩, inputAmount, inputRead, spendable, balance, enough⟩ := valid
  have sameInput : input = inputAmount := by
    rw [parsed] at inputRead
    exact Except.ok.inj inputRead
  subst sameInput
  apply Fits.mk backend sourceChain sourceToken destinationChain destinationToken
  · exact same ▸ parseAmount_eq_ok.mp read
  · exact parseAmount_eq_ok.mp parsed
  · intro limit present
    simpa [validateInputLimit, present] using limited
  · exact ⟨spendable, balance, enough⟩

section Actions

variable {action : Action} {source : WalletAsset} {amount : U256} {payload : EvmTransactionPayload}

@[simp] theorem actionPayload_eq_ok :
    actionPayload action = .ok payload ↔ action.payload = .evmTransaction payload := by
  cases shape : action.payload with
  | evmTransaction other => simp [actionPayload, shape]
  | solanaInstructions => simp [actionPayload, shape]
  | depositAddress => simp [actionPayload, shape]

variable {settlement : Address}

theorem validateDepositAction_ok
    (valid : validateDepositAction formats action source amount = .ok settlement) :
    ∃ payload, action.payload = .evmTransaction payload ∧
        formats.parseAddress payload.target = some settlement ∧
        formats.parseU256 payload.value = some (if source.native then amount else 0) := by
  simp only [validateDepositAction, Check.bind_eq_ok, actionPayload_eq_ok, parseTarget,
    parseValue, Check.orError_eq_ok, Check.ensure_eq_ok] at valid
  obtain ⟨payload, shape, target, targetRead, value, valueRead, _, ⟨same, _⟩, ends⟩ := valid
  cases ends
  exact ⟨payload, shape, targetRead, same ▸ valueRead⟩

variable {requirement : ApprovalRequirement}

theorem approvalRequirement_ok
    (valid : approvalRequirement formats action source amount = .ok requirement) :
    source.native = false ∧ ∃ payload token, action.payload = .evmTransaction payload ∧
          formats.parseAddress payload.target = some token ∧
          formats.parseAddress source.id.tokenAddress = some token ∧
          formats.parseU256 payload.value = some 0 := by
  simp only [approvalRequirement, Check.bind_eq_ok, Check.ensure_eq_ok, actionPayload_eq_ok,
    parseTarget, sourceToken, parseValue, decodeData, Check.orError_eq_ok] at valid
  obtain ⟨_, notNative, payload, shape, target, targetRead, token, tokenRead, value, valueRead,
    _, _, _, ⟨sameTarget, noValue, _⟩, _⟩ := valid
  exact ⟨notNative, payload, token, shape, sameTarget ▸ targetRead, tokenRead, noValue ▸ valueRead⟩

variable {quote : Quote}

theorem onlyDeposit_eq_ok {deposit : Action} :
    onlyDeposit quote = .ok deposit ↔ quote.actionsOf .transaction = [deposit] := by
  unfold onlyDeposit
  split
  · rename_i chosen shape
    simp [shape]
  · rename_i several
    constructor
    · intro refused
      cases refused
    · intro single
      exact (several deposit single).elim

theorem validateQuoteActions_ok
    (valid : validateQuoteActions formats quote source amount = .ok settlement) :
    (∃ deposit, quote.actionsOf .transaction = [deposit] ∧
        validateDepositAction formats deposit source amount = .ok settlement) ∧
      (quote.actionsOf .approval = [] ∨ ∃ approval requirement,
          quote.actionsOf .approval = [approval] ∧
            approvalRequirement formats approval source amount = .ok requirement ∧
            requirement.spender = settlement) := by
  unfold validateQuoteActions at valid
  rw [Check.bind_eq_ok] at valid
  obtain ⟨deposit, chosen, valid⟩ := valid
  rw [Check.bind_eq_ok] at valid
  obtain ⟨target, checked, valid⟩ := valid
  have single : quote.actionsOf .transaction = [deposit] := onlyDeposit_eq_ok.mp chosen
  split at valid
  · rw [Check.bind_eq_ok] at valid
    obtain ⟨_, none, ends⟩ := valid
    cases ends
    exact ⟨⟨deposit, single, checked⟩, .inl (Check.ensure_eq_ok.mp none)⟩
  · split at valid
    · rename_i none
      cases valid
      exact ⟨⟨deposit, single, checked⟩, .inl none⟩
    · rename_i approval shape
      simp only [Check.bind_eq_ok, Check.ensure_eq_ok] at valid
      obtain ⟨requirement, required, _, spender, ends⟩ := valid
      cases ends
      exact ⟨⟨deposit, single, checked⟩, .inr ⟨approval, requirement, shape, required, spender⟩⟩
    · cases valid

theorem depositAction_eq_ok {deposit chosen : Action}
    (single : quote.actionsOf .transaction = [deposit])
    (valid : depositAction formats quote source amount = .ok chosen) :
    chosen = deposit := by
  unfold depositAction at valid
  rw [single] at valid
  simp only [Check.bind_eq_ok] at valid
  obtain ⟨_, _, ends⟩ := valid
  cases ends
  rfl

theorem actionRequest_ok {signer : Address} {chain : String} {request : TransactionRequest}
    (shape : action.payload = .evmTransaction payload)
    (valid : actionRequest formats action signer chain = .ok request) :
    ∃ target data value chainId,
      formats.parseAddress payload.target = some target ∧
        hexDecodeLoose ((afterStart "0x" payload.data).getD payload.data) = some data ∧
        formats.parseU256 payload.value = some value ∧
        parseChainId chain = .ok chainId ∧
        request =
          { chainId := some chainId
            fromAddress := some signer
            destination := some (.call target)
            input := some data
            value := some value } := by
  simp only [actionRequest, Check.bind_eq_ok, actionPayload_eq_ok, parseTarget, decodeData,
    parseValue, Check.orError_eq_ok] at valid
  obtain ⟨_, _, other, same, _, _, target, targetRead, data, dataRead, value, valueRead,
    chainId, chainRead, ends⟩ := valid
  rw [shape] at same
  cases same
  cases ends
  exact ⟨target, data, value, chainId, targetRead, dataRead, valueRead, chainRead, rfl⟩

theorem approvalAction_ok {bounded : Action} {approved : U256}
    (shape : action.payload = .evmTransaction payload)
    (valid : approvalAction action requirement approved = .ok bounded) :
    bounded.payload = .evmTransaction
        { payload with
          data := "0x" ++ hexEncode (approveCalldata requirement.spender approved) } := by
  simp only [approvalAction, Check.bind_eq_ok, actionPayload_eq_ok] at valid
  obtain ⟨_, _, other, same, ends⟩ := valid
  rw [shape] at same
  cases same
  cases ends
  rfl

end Actions

end Axe.Intents

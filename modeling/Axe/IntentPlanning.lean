import Axe.IntentExecution
import Axe.Saturating

namespace Axe.Intents

open Hardened (Address U256)

/-!
# Planning of round trips

A sweep looks at all pairs of funded assets on different chains, asks for quotes in both
directions and keeps the pairs whose inputs stay within a share of what the wallet holds.
-/

/-- Which assets a sweep trades. -/
inductive AssetType where
  | token
  | native
  deriving DecidableEq

def AssetType.accepts (assetType : AssetType) (asset : WalletAsset) : Bool :=
  asset.native = (assetType = .native)

def bpsDenominator : Nat := 10000

def exactOutputHeadroomBps : Nat := 9500

def exactOutputCalibrationAttempts : Nat := 3

def unlessZero (amount : U256) : Option U256 :=
  if amount = 0 then none else some amount

/-- A share of what is spendable; the product wraps around. -/
def candidateAmount (asset : WalletAsset) (walletBps : BitVec 16) : Option U256 := do
  let spendable ← spendableBalance asset
  unlessZero
    (spendable * BitVec.ofNat 256 walletBps.toNat / BitVec.ofNat 256 bpsDenominator)

/-- The shares of both assets as limits of the inputs. -/
def cappedInputBudget (source destination : WalletAsset)
    (walletBps : BitVec 16) : Option RoundTripInputBudget := do
  let forward ← candidateAmount source walletBps
  return .capped forward ((candidateAmount destination walletBps).getD 0)

def forwardInputLimit : RoundTripInputBudget → Option U256
  | .spendableBalance => none
  | .capped forward _ => some forward

/-- A smaller output whose input should leave some headroom below the limit. -/
def calibrateExactOutput (requested quotedInput inputLimit : U256) : Option U256 :=
  if quotedInput = 0 then
    none
  else
    let targetInput := inputLimit.toNat * exactOutputHeadroomBps / bpsDenominator
    let adjusted := saturate 256 (requested.toNat * targetInput / quotedInput.toNat)
    if adjusted ≠ 0 ∧ adjusted < requested then some adjusted else none

def forwardInputIsWithinBudget (input : U256) : RoundTripInputBudget → Bool
  | .spendableBalance => true
  | .capped forward _ => decide (input ≤ forward)

/-- The first leg as it was quoted. -/
structure ForwardPreflight where
  requested : U256
  input : U256
  output : U256
  settlementContract : Address
  deriving DecidableEq

section Planning

variable (runtime : IntentRuntime)

/-- Ask for the first leg, with smaller outputs while its input is too large. -/
def preflightForward (source destination : WalletAsset) (orderType : OrderType)
    (inputBudget : RoundTripInputBudget) : Nat → U256 → Intent (Option ForwardPreflight)
  | 0, _ => .done none
  | attempts + 1, requested => do
    let outcome ←
      clientQuote
        (quoteRequest runtime.formats source destination runtime.signer runtime.signer
          orderType requested)
    match outcome with
    | .unavailable _ => .done none
    | .available quote => do
      Program.check
        (validateQuoteRoute runtime.formats quote source.id destination.id orderType requested)
      let input ← Program.check (parseAmount runtime.formats quote.input.amount)
      if forwardInputIsWithinBudget input inputBudget then do
        Program.check
          (validateQuote runtime.formats quote source destination orderType requested)
        let settlementContract ←
          Program.check (validateQuoteActions runtime.formats quote source input)
        let output ← Program.check (parseAmount runtime.formats quote.output.amount)
        return some ⟨requested, input, output, settlementContract⟩
      else if orderType ≠ .exactOutput then
        .done none
      else
        match
          (forwardInputLimit inputBudget).bind fun limit =>
            calibrateExactOutput requested input limit
        with
        | none => .done none
        | some adjusted =>
          preflightForward source destination orderType inputBudget attempts adjusted

end Planning

end Axe.Intents

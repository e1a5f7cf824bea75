import Axe.RunSizing

namespace Axe.LoadTesting

open Hardened (Address)

/-!
# Funding the keys of a load test

A load test from an EVM chain sends interchain transfers from a pool of keys that are
derived from the main wallet.  Before it starts, every key is topped up with native
coin and with the token.  Each route computes the amounts in its own way.

Amounts are natural numbers; where the source multiplies with saturation or adds
machine integers, the width is written out.
-/

/-- The main wallet and the keys derived from it; hashes of different seeds differ. -/
structure Wallets where
  main : Address
  derive : Nat → Option Address
  derive_injective : ∀ {first second address},
      derive first = some address → derive second = some address → first = second
  derive_ne_main : ∀ index, derive index ≠ some main

def Wallets.deriveEvmSigners (wallets : Wallets) (count : Nat) : Option (List Address) :=
  if count ≤ 1 then
    some (List.replicate count wallets.main)
  else
    (List.range count).mapM wallets.derive

/-- What the preparation asks the source chain. -/
inductive FundingCall where
  | balance (account : Address)
  | gasPrice
  | detectFeeMode
  | sendNative (receiver : Address) (amount : Nat)
  | decimals
  | tokenBalance (holder : Address)
  | transferToken (receiver : Address) (amount : Nat)
  | tokenManager
  | allowance (holder : Address)
  | approve (holder : Address)

/-- A failed call has no value; what a transaction costs is known once it is in a block. -/
def FundingCall.Reply : FundingCall → Type
  | balance _ => Option Nat
  | gasPrice => Option Nat
  | detectFeeMode => Option Unit
  | sendNative _ _ => Option Nat
  | decimals => Option Nat
  | tokenBalance _ => Option Nat
  | transferToken _ _ => Option (Bool × Nat)
  | tokenManager => Option Unit
  | allowance _ => Option Nat
  | approve _ => Option Nat

/-- Why a preparation stops. -/
inductive FundingError where
  | underivableKey
  | amountExceedsU128
  | unreadBalance (index : Nat)
  | balanceExceedsU128
  | unreadMainBalance
  | underfundedMain (keys : Nat)
  | unknownFeeMode
  | fundingFailed (index : Nat)
  | unreadDecimals
  | transferFailed (index : Nat)
  | transferReverted (index : Nat)
  | unknownTokenManager
  | approvalFailed (index : Nat)
  deriving DecidableEq

/-- The calls of the preparation. -/
def fundingInterface : Interface where
  Call := FundingCall
  Reply := FundingCall.Reply

/-- A program of the preparation. -/
abbrev Preparing (Value : Type) := Program fundingInterface FundingError Value

def need {Value : Type} (op : FundingCall) (unpack : op.Reply → Option Value)
    (error : FundingError) : Preparing Value :=
  @Program.require fundingInterface FundingError Value op unpack error

def saturatingMul (width first second : Nat) : Nat := min (first * second) (2 ^ width - 1)

/-!
## Native coin
-/

def minWeiPerKey : Nat := 40000000000000000

def targetWeiPerKey : Nat := 50000000000000000

/-- The keys that hold too little, with the amounts they miss. -/
def keysToFund (main : Address) (minNeeded target : Nat) :
    List (Address × Nat) → Preparing (List ((Address × Nat) × Nat))
  | [] => .done []
  | (address, index) :: rest =>
    if address = main then
      -- A single-tx run signs with the main wallet itself; it pays its own gas.
      keysToFund main minNeeded target rest
    else do
      let balance ← need (.balance address) id (.unreadBalance index)
      Program.ensure (balance < 2 ^ 128) .balanceExceedsU128
      let others ← keysToFund main minNeeded target rest
      if balance < minNeeded then
        return ((address, index), target - balance) :: others
      else
        return others

def fundKey (missing : (Address × Nat) × Nat) : Preparing Unit := do
  let _ ← need (.sendNative missing.1.1 missing.2) id (.fundingFailed missing.1.2)
  return ()

/-- Fund the keys that hold too little, if the main wallet can pay for it. -/
def ensureFundedEvmWithExtra (main : Address) (derived : List Address)
    (extra : Nat) : Preparing Unit := do
  Program.ensure (extra < 2 ^ 128) .amountExceedsU128
  let minNeeded := (minWeiPerKey + extra) % 2 ^ 128
  let target := (targetWeiPerKey + extra) % 2 ^ 128
  let toFund ← keysToFund main minNeeded target derived.zipIdx
  if toFund.isEmpty then
    return ()
  else do
    let mainBalance ← need (.balance main) id .unreadMainBalance
    Program.ensure (mainBalance < 2 ^ 128) .balanceExceedsU128
    let totalNeeded := (toFund.map Prod.snd).sum % 2 ^ 128
    Program.ensure (totalNeeded ≤ mainBalance) (.underfundedMain toFund.length)
    let _ ← need .detectFeeMode id .unknownFeeMode
    Program.each fundKey toFund

/-!
## Tokens
-/

/-- What one transfer takes and what one key is given. -/
structure TokenAmounts where
  perTx : Nat
  perKey : Nat
  deriving DecidableEq

def TokenAmounts.standard : TokenAmounts where
  perTx := 10000000000000000
  perKey := 10000000000000000 * 100

def TokenAmounts.withData : TokenAmounts where
  perTx := 1000000000000000000
  perKey := 1000000000000000000 * 100

/-- The amounts for a token with fewer decimals. -/
def TokenAmounts.rescale (amounts : TokenAmounts) (decimals : Nat) : TokenAmounts :=
  if decimals < 18 then
    ⟨amounts.perTx / 10 ^ (18 - decimals), amounts.perKey / 10 ^ (18 - decimals)⟩
  else
    amounts

def rescaleSizingForDecimals (amounts : TokenAmounts) : Preparing TokenAmounts := do
  let decimals ← need .decimals id .unreadDecimals
  return amounts.rescale decimals

/-- Give a key its tokens unless it holds them. -/
def distributeToKey (main : Address) (amountPerKey : Nat) (key : Address × Nat) : Preparing Unit :=
  if key.1 = main then
    .done ()
  else
    .call (.tokenBalance key.1) fun balance : Option Nat =>
      if amountPerKey ≤ balance.getD 0 then
        .done ()
      else do
        let receipt ← need (.transferToken key.1 amountPerKey) id (.transferFailed key.2)
        Program.ensure (receipt.1 = true) (.transferReverted key.2)

/-- Give every key its tokens. -/
def distributeTokens (main : Address) (derived : List Address)
    (amountPerKey : Nat) : Preparing Unit :=
  Program.each (distributeToKey main amountPerKey) derived.zipIdx

/-- Approve the token service unless the allowance suffices. -/
def approveForKey (threshold : Nat) (key : Address × Nat) : Preparing Unit :=
  .call (.allowance key.1) fun allowance : Option Nat =>
    if threshold ≤ allowance.getD 0 then
      .done ()
    else do
      let _ ← need (.approve key.1) id (.approvalFailed key.2)
      return ()

def approveItsForKeys (derived : List Address) (amountPerKey : Nat) : Preparing Unit := do
  let _ ← need .tokenManager id .unknownTokenManager
  Program.each (approveForKey (saturatingMul 256 amountPerKey 2)) derived.zipIdx

/-!
## The routes
-/

/-- The rounds of a key and a fifth more. -/
def bufferedRounds (sizing : RunSizing) : Nat :=
  (sizing.transactionsPerKey + sizing.transactionsPerKey / 5 + 1) % 2 ^ 64

/-- The gas payments of a key on top of the minimum. -/
def gasExtraPerKey (width : Nat) (sizing : RunSizing) (gasValue : Nat) : Nat :=
  let hubGasValue := saturatingMul width gasValue 2
  if sizing.isBurst then hubGasValue else saturatingMul width hubGasValue (bufferedRounds sizing)

def hubGasExtraPerKey (sizing : RunSizing) (gasValue : Nat) : Nat :=
  gasExtraPerKey 256 sizing gasValue

def computeGasExtraPerKey (sizing : RunSizing) (gasValue : Nat) : Nat :=
  gasExtraPerKey 128 sizing gasValue

def itsGasLimit : Nat := 1000000

def xrplGasExtraPerKey (sizing : RunSizing) (gasValue gasPrice : Nat) : Nat :=
  let hubGasValue := saturatingMul 128 gasValue 2
  let perTxNativeCost := (saturatingMul 128 gasPrice itsGasLimit + hubGasValue) % 2 ^ 128
  let txsPerKey := if sizing.isBurst then 1 else bufferedRounds sizing
  saturatingMul 128 (saturatingMul 128 perTxNativeCost txsPerKey) 2

def suiGasExtraPerKey (gasValue : Nat) : Nat := saturatingMul 128 (saturatingMul 128 gasValue 2) 2

def xrplAmountPerTx : Nat := 1000000000000000

def xrplAmountPerKey (sizing : RunSizing) : Nat :=
  if sizing.isBurst then
    xrplAmountPerTx
  else
    xrplAmountPerTx * ((sizing.transactionsPerKey + 1) % 2 ^ 64)

/-- The keys of a run and the amount of each of its transfers. -/
structure Prepared where
  derived : List Address
  amountPerTx : Nat

section Routes

variable (wallets : Wallets) (sourceAxelarId : String) (sizing : RunSizing) (gasValue : Nat)

/-- Derive the keys and fund them. -/
def deriveAndFundSigners (extra : Nat) : Preparing (List Address) := do
  let derived ← Program.orFail (wallets.deriveEvmSigners sizing.numKeys) .underivableKey
  ensureFundedEvmWithExtra wallets.main derived extra
  return derived

/-- On Hedera a fresh account is not seen at once, so the main wallet sends itself. -/
def deriveAndFundKeys (extra : Nat) : Preparing (List Address) :=
  if sourceAxelarId = "hedera" then
    .done (List.replicate sizing.numKeys wallets.main)
  else
    deriveAndFundSigners wallets sizing extra

/-- The preparation of a transfer to an EVM chain. -/
def prepareEvm : Preparing Prepared := do
  let amounts ← rescaleSizingForDecimals .standard
  let derived ←
    deriveAndFundKeys wallets sourceAxelarId sizing (hubGasExtraPerKey sizing gasValue)
  distributeTokens wallets.main derived amounts.perKey
  return ⟨derived, amounts.perTx⟩

def prepareSol : Preparing Prepared := prepareEvm wallets sourceAxelarId sizing gasValue

/-- The preparation of a transfer to Solana with data. -/
def prepareSolWithData : Preparing Prepared := do
  let amounts ← rescaleSizingForDecimals .withData
  let derived ← deriveAndFundSigners wallets sizing (computeGasExtraPerKey sizing gasValue)
  distributeTokens wallets.main derived amounts.perKey
  approveItsForKeys derived amounts.perKey
  return ⟨derived, amounts.perTx⟩

/-- The preparation of a transfer to Stellar. -/
def prepareStellar : Preparing Prepared := do
  let amounts ← rescaleSizingForDecimals .standard
  let derived ← deriveAndFundSigners wallets sizing (gasExtraPerKey 128 sizing gasValue)
  distributeTokens wallets.main derived amounts.perKey
  return ⟨derived, amounts.perTx⟩

/-- The preparation of a transfer to the XRP ledger. -/
def prepareXrpl : Preparing Prepared := do
  let derived ← Program.orFail (wallets.deriveEvmSigners sizing.numKeys) .underivableKey
  let gasPrice : Option Nat ← @Program.perform fundingInterface FundingError .gasPrice
  ensureFundedEvmWithExtra wallets.main derived
    (xrplGasExtraPerKey sizing gasValue (gasPrice.getD 1000000000))
  distributeTokens wallets.main derived (xrplAmountPerKey sizing)
  approveItsForKeys derived (xrplAmountPerKey sizing)
  return ⟨derived, xrplAmountPerTx⟩

/-- The preparation of a transfer to Sui. -/
def prepareSui : Preparing Prepared := do
  let derived ← deriveAndFundSigners wallets sizing (suiGasExtraPerKey gasValue)
  distributeTokens wallets.main derived sizing.transactionsPerKey
  return ⟨derived, 1⟩

/-- The destinations of interchain transfers from an EVM chain. -/
inductive Route where
  | evm
  | sol
  | solWithData
  | stellar
  | xrpl
  | sui
  deriving DecidableEq

/-- The preparation of a run: its keys are derived, funded and given tokens. -/
def prepare : Route → Preparing Prepared
  | .evm => prepareEvm wallets sourceAxelarId sizing gasValue
  | .sol => prepareSol wallets sourceAxelarId sizing gasValue
  | .solWithData => prepareSolWithData wallets sizing gasValue
  | .stellar => prepareStellar wallets sizing gasValue
  | .xrpl => prepareXrpl wallets sizing gasValue
  | .sui => prepareSui wallets sizing gasValue

def derivedKeys : Route → Option (List Address)
  | .evm | .sol =>
    if sourceAxelarId = "hedera" then
      some (List.replicate sizing.numKeys wallets.main)
    else
      wallets.deriveEvmSigners sizing.numKeys
  | _ => wallets.deriveEvmSigners sizing.numKeys

end Routes

/-!
## The chain
-/

/-- What the accounts hold, and the fees that they have paid since the start. -/
structure Ledger where
  native : Address → Nat
  fees : Address → Nat
  token : Address → Nat
  allowance : Address → Nat

structure SourceNode where
  decimals : Nat
  gasPrice : Option Nat

namespace Ledger

/-- What an account holds, with the fees it has paid. -/
def funds (ledger : Ledger) (account : Address) : Nat := ledger.native account + ledger.fees account

/-- No account but the main wallet has lost anything to others. -/
def Grows (main : Address) (before after : Ledger) : Prop :=
  ∀ account, account ≠ main →
    before.funds account ≤ after.funds account ∧ before.token account ≤ after.token account

def pay (ledger : Ledger) (account : Address) (fee : Nat) : Ledger :=
  { ledger with
    native := Function.update ledger.native account (ledger.native account - fee)
    fees := Function.update ledger.fees account (ledger.fees account + fee) }

def moveNative (ledger : Ledger) (sender receiver : Address) (amount : Nat) : Ledger :=
  let taken := Function.update ledger.native sender (ledger.native sender - amount)
  { ledger with native := Function.update taken receiver (taken receiver + amount) }

def moveToken (ledger : Ledger) (sender receiver : Address) (amount : Nat) : Ledger :=
  let taken := Function.update ledger.token sender (ledger.token sender - amount)
  { ledger with token := Function.update taken receiver (taken receiver + amount) }

end Ledger

/-- Reads that succeed are true, and a transaction that succeeds was covered. -/
def fundingAnswers (main : Address) (node : SourceNode) (ledger : Ledger) :
    (op : FundingCall) → op.Reply → Prop
  | .balance account, reply => ∀ value : Nat, reply = some value → value = ledger.native account
  | .gasPrice, reply => reply = node.gasPrice
  | .detectFeeMode, _ => True
  | .sendNative _ amount, reply => ∀ fee : Nat, reply = some fee → amount + fee ≤ ledger.native main
  | .decimals, reply => ∀ value : Nat, reply = some value → value = node.decimals
  | .tokenBalance holder, reply => ∀ value : Nat, reply = some value → value = ledger.token holder
  | .transferToken _ amount, reply =>
    ∀ receipt : Bool × Nat, reply = some receipt →
      receipt.2 ≤ ledger.native main ∧ (receipt.1 = true → amount ≤ ledger.token main)
  | .tokenManager, _ => True
  | .allowance holder, reply => ∀ value : Nat, reply = some value → value = ledger.allowance holder
  | .approve holder, reply => ∀ fee : Nat, reply = some fee → fee ≤ ledger.native holder

/-- What a transaction does once it is in a block. -/
def fundingReacts (main : Address) : (op : FundingCall) → op.Reply → Ledger → Ledger
  | .sendNative receiver amount, some fee, ledger =>
    (ledger.pay main fee).moveNative main receiver amount
  | .transferToken receiver amount, some (true, fee), ledger =>
    (ledger.pay main fee).moveToken main receiver amount
  | .transferToken _ _, some (false, fee), ledger => ledger.pay main fee
  | .approve holder, some fee, ledger =>
    { ledger.pay holder fee with
      allowance := Function.update ledger.allowance holder (2 ^ 256 - 1) }
  | _, _, ledger => ledger

/-- The preparation and the source chain. -/
def fundingMachine (main : Address) (node : SourceNode) : Machine fundingInterface Unit Ledger where
  allowed := fun _ ledger op reply => fundingAnswers main node ledger op reply
  react := fun op reply _ ledger => ((), fundingReacts main op reply ledger)
  evolve := fun before after => before.Grows main after

end Axe.LoadTesting

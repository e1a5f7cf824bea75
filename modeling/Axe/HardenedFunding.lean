import Axe.HardenedCalls
import Axe.SlotMaxima

namespace Axe.Hardened

/-!
# Fee budgets

What a journal can cost a signer is, for every nonce or sequence number, the
largest cost of the transactions recorded for it, and the sum of these over all
nonces.  A new transaction is signed only if that sum stays within the plan.
-/

/-- What a transaction of the sender may cost at its nonce. -/
def evmOffer (sender : Address) : Transaction → Option (U64 × Nat)
  | .evm tx => if tx.sender = sender then some (tx.nonce, tx.gasCost) else none
  | .cosmos _ => none

/-- The fee as a number, if it is one. -/
def CosmosTransaction.feeValue (tx : CosmosTransaction) : Option Nat :=
  parseUnsigned (2 ^ 128) tx.fee

def CosmosTransaction.feePaid (tx : CosmosTransaction) : Nat := tx.feeValue.getD 0

theorem feeValue_of_decimalText {tx : CosmosTransaction} {amount : Nat}
    (written : tx.fee = decimalText amount) (fits : amount < 2 ^ 128) :
    tx.feeValue = some amount := by
  rw [CosmosTransaction.feeValue, written]
  exact parseUnsigned_decimalText fits

/-- What a transaction of the sender pays at its sequence number. -/
def cosmosOffer (sender : String) : Transaction → Option (Nat × Nat)
  | .evm _ => none
  | .cosmos tx => if tx.sender = sender then some (tx.sequence, tx.feePaid) else none

/-- The fee of the transaction can be read. -/
def feeReadable (sender : String) : Transaction → Bool
  | .evm _ => true
  | .cosmos tx => tx.sender ≠ sender || tx.feeValue.isSome

/-- What the recorded transactions of a sender may cost. -/
def evmOffers (journal : Journal) (sender : Address) : List (U64 × Nat) :=
  journal.recorded.filterMap (evmOffer sender)

/-- What the recorded transactions of a sender pay. -/
def cosmosOffers (journal : Journal) (sender : String) : List (Nat × Nat) :=
  journal.recorded.filterMap (cosmosOffer sender)

/-- The most that the recorded transactions of an EVM sender can cost. -/
def liability (journal : Journal) (sender : Address)
    (candidate : Option (U64 × Nat)) : Option Nat :=
  SlotMaxima.checkedSum (2 ^ 256)
    ((SlotMaxima.maxima (evmOffers journal sender ++ candidate.toList)).entries.map Sigma.snd)

/-- The most that the recorded transactions of a Cosmos sender can cost. -/
def feeLiability (journal : Journal) (sender : String)
    (candidate : Option (Nat × Nat)) : Except String Nat :=
  if journal.recorded.all (feeReadable sender) then
    match
      SlotMaxima.checkedSum (2 ^ 128)
        ((SlotMaxima.maxima
          (cosmosOffers journal sender ++ candidate.toList)).entries.map Sigma.snd) with
    | none => .error "fee budget overflow"
    | some total => .ok total
  else
    .error "invalid digit found in string"

/-- The nonce of the transaction that is replaced. -/
def candidateNonce (journal : Journal) (replacing : Option ActionKey) : Option U64 :=
  match replacing.bind journal.get with
  | some (.evm tx) => some tx.nonce
  | _ => none

/-- Whether a new EVM transaction stays within the plan. -/
def checkBudget (plan : Plan) (journal : Journal) (sender : Address) (cost : Nat)
    (replacing : Option ActionKey) : Except String Unit :=
  let nonce := candidateNonce journal replacing
  match liability journal sender (nonce.map fun nonce => (nonce, cost)) with
  | none => .error "gas budget overflow"
  | some spent =>
    let total :=
      if nonce.isSome then
        some spent
      else if spent + cost < 2 ^ 256 then some (spent + cost) else none
    match total with
    | none => .error "gas budget overflow"
    | some total =>
      if total ≤ plan.evmGasBudget then
        .ok ()
      else
        .error "transaction exceeds approved EVM gas budget"

/-- Whether a new Cosmos transaction stays within the plan. -/
def checkFeeBudget (plan : Plan) (journal : Journal) (sender : String)
    (sequence fee : Nat) : Except String Unit :=
  match feeLiability journal sender (some (sequence, fee)) with
  | .error message => .error message
  | .ok total =>
    if total ≤ plan.cosmosFeeBudget then .ok () else .error "Cosmos fee budget exceeded"

inductive BudgetHolder where
  | evm (sender : Address)
  | cosmos (sender : String)
  deriving DecidableEq

/-- The part of the plan that the recorded transactions of an account take. -/
def reservedBudget (journal : Journal) : BudgetHolder → Except String Nat
  | .evm sender =>
    match liability journal sender none with
    | none => .error "gas budget overflow"
    | some reserved =>
      if reserved < 2 ^ 128 then .ok reserved else .error "Uint conversion error"
  | .cosmos sender => feeLiability journal sender none

/-- The budget of the plan for a holder. -/
def approvedBudget (plan : Plan) : BudgetHolder → Nat
  | .evm _ => plan.evmGasBudget
  | .cosmos _ => plan.cosmosFeeBudget

/-- What a new run may still spend, as the preflight check computes it. -/
def remainingBudget (plan : Plan) (disk : Option Journal)
    (holder : BudgetHolder) : Except String Nat :=
  if 2 ^ 128 ≤ approvedBudget plan holder then
    .error "number too large to fit in target type"
  else
    match disk with
    | none => .ok (approvedBudget plan holder)
    | some journal =>
      match reservedBudget journal holder with
      | .error message => .error message
      | .ok reserved =>
        if reserved ≤ approvedBudget plan holder then
          .ok (approvedBudget plan holder - reserved)
        else
          .error "journal exceeds approved fee budget"

end Axe.Hardened

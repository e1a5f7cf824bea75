import Axe.IntentPlanning
import Axe.LegContracts

namespace Axe.Intents

open Hardened (Address U256)

/-!
# What plans promise

Planning only asks for quotes.  A round trip that a sweep plans is between two assets that
were found, and its budget is the share of each of them that the wallet is allowed to use.
-/

variable {runtime : IntentRuntime}

structure SweepPlan (assets : List WalletAsset) (walletBps : BitVec 16)
    (plan : RoutePlan) : Prop where
  source : plan.source ∈ assets
  destination : plan.destination ∈ assets
  budget : cappedInputBudget plan.source plan.destination walletBps = some plan.inputBudget

variable {assets : List WalletAsset} {walletBps : BitVec 16} {orderType : OrderType}
variable {source destination : WalletAsset}

def WalletAsset.spendable (asset : WalletAsset) : Nat :=
  if asset.native then asset.balance.toNat - gasReserveWei.toNat else asset.balance.toNat

def WalletAsset.share (asset : WalletAsset) (walletBps : BitVec 16) : Nat :=
  asset.spendable * walletBps.toNat / bpsDenominator

variable {asset : WalletAsset}

theorem spendable_of_spendableBalance {amount : U256}
    (found : spendableBalance asset = some amount) :
    amount.toNat = asset.spendable := by
  unfold spendableBalance at found
  unfold WalletAsset.spendable
  split at found
  · rename_i native
    have exact := toNat_of_checkedSub found
    rw [if_pos native]
    omega
  · rename_i notNative
    cases found
    rw [if_neg notNative]

theorem candidateAmount_le {amount : U256} (found : candidateAmount asset walletBps = some amount) :
    amount.toNat ≤ asset.share walletBps := by
  unfold candidateAmount at found
  simp only [Option.bind_eq_bind, Option.bind_eq_some_iff] at found
  obtain ⟨spendable, balance, candidate⟩ := found
  have same : spendable * BitVec.ofNat 256 walletBps.toNat / BitVec.ofNat 256 bpsDenominator =
        amount := by
    unfold unlessZero at candidate
    split at candidate
    · cases candidate
    · exact Option.some.inj candidate
  have small : walletBps.toNat < 2 ^ 256 := Nat.lt_of_lt_of_le walletBps.isLt (by decide)
  have denominator : bpsDenominator % 2 ^ 256 = bpsDenominator := by decide
  rw [← same, BitVec.toNat_udiv, BitVec.toNat_mul, BitVec.toNat_ofNat, BitVec.toNat_ofNat,
    Nat.mod_eq_of_lt small, denominator, spendable_of_spendableBalance balance]
  exact Nat.div_le_div_right (Nat.mod_le _ _)

theorem capped_le {budget : RoundTripInputBudget}
    (capped : cappedInputBudget source destination walletBps = some budget) :
    ∃ forward reverseTopUp, budget = .capped forward reverseTopUp ∧
        forward.toNat ≤ source.share walletBps ∧
        reverseTopUp.toNat ≤ destination.share walletBps := by
  unfold cappedInputBudget at capped
  simp only [Option.bind_eq_bind, Option.bind_eq_some_iff] at capped
  obtain ⟨forward, found, ends⟩ := capped
  cases ends
  refine ⟨forward, _, rfl, candidateAmount_le found, ?_⟩
  cases topUp : candidateAmount destination walletBps with
  | none => exact Nat.zero_le _
  | some amount => exact candidateAmount_le topUp

end Axe.Intents

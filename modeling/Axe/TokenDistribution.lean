import Axe.FundedSchedules
import Axe.ProgramTraces

namespace Axe.LoadTesting

open Hardened (Address)

/-!
# The distribution of a reused token

A run reuses a token if the deployer holds what one transfer of every key takes.  Then it gives
each key that holds too little the amount for all transfers of a key, which is a hundred times
as much.
-/

/-- What the deployer is asked to hold before a token is reused, in units of 18 decimals. -/
def neededTokens (sizing : RunSizing) : Nat := TokenAmounts.standard.perTx * sizing.numKeys

def scaledNeeded (needed decimals : Nat) : Nat :=
  if decimals < 18 then needed / 10 ^ (18 - decimals) else needed

def configTokenSuffices (needed : Nat) (decimals : Option Nat) (balance : Nat) : Bool :=
  decide (scaledNeeded needed (decimals.getD 18) ≤ balance)

def cachedTokenSuffices (needed balance : Nat) : Bool := decide (needed ≤ balance)

def distributedPerKey (decimals : Nat) : Nat := (TokenAmounts.standard.rescale decimals).perKey

def sendTokens (main receiver : Address) (amount : Nat) (balances : Address → Nat) :
    Address → Nat :=
  let taken := Function.update balances main (balances main - amount)
  Function.update taken receiver (taken receiver + amount)

/-- Reads are true, a transfer that is covered succeeds, and nobody else moves the token. -/
def Truthful (main : Address) : (Address → Nat) → List (Exchange fundingInterface) → Prop
  | _, [] => True
  | balances, ⟨.tokenBalance holder, reply⟩ :: rest =>
    (reply : Option Nat) = some (balances holder) ∧ Truthful main balances rest
  | balances, ⟨.transferToken receiver amount, reply⟩ :: rest =>
    (amount ≤ balances main → ∃ fee, (reply : Option (Bool × Nat)) = some (true, fee)) ∧
      Truthful main (sendTokens main receiver amount balances) rest
  | balances, _ :: rest => Truthful main balances rest

def Covered (main : Address) : (Address → Nat) → List (Exchange fundingInterface) → Prop
  | _, [] => True
  | balances, ⟨.transferToken receiver amount, _⟩ :: rest =>
    amount ≤ balances main ∧ Covered main (sendTokens main receiver amount balances) rest
  | balances, _ :: rest => Covered main balances rest

/-- Whatever the fees are, no transfer of the distribution is uncovered. -/
def AlwaysCovered (main : Address) (balances : Address → Nat) (program : Preparing Unit) : Prop :=
  program.Traces fun exchanges _ => Truthful main balances exchanges → Covered main balances exchanges

/-- The keys that hold too few tokens. -/
def lackingKeys (main : Address) (amountPerKey : Nat) (balances : Address → Nat)
    (derived : List Address) : List Address :=
  derived.filter fun key => key ≠ main ∧ balances key < amountPerKey

variable {main : Address} {amountPerKey : Nat} {balances : Address → Nat} {key : Address}

theorem lackingKeys_sendTokens {rest : List Address} (absent : key ∉ rest) :
    lackingKeys main amountPerKey (sendTokens main key amountPerKey balances) rest =
      lackingKeys main amountPerKey balances rest := by
  apply List.filter_congr
  intro other member
  have different : other ≠ key := fun same => absent (same ▸ member)
  by_cases isMain : other = main
  · simp [isMain]
  · simp [sendTokens, Function.update_of_ne different, Function.update_of_ne isMain]

/-- The payment of one key after the others. -/
abbrev distributeEach (main : Address) (amountPerKey : Nat) (keys : List (Address × Nat)) :
    Preparing Unit :=
  Program.each (distributeToKey main amountPerKey) keys

variable {rest : List (Address × Nat)}

/-- A key with enough tokens is passed over. -/
theorem alwaysCovered_of_enough
    {index : Nat}
    (different : key ≠ main)
    (enough : amountPerKey ≤ balances key) :
    AlwaysCovered main balances (distributeEach main amountPerKey ((key, index) :: rest)) ↔
      AlwaysCovered main balances (distributeEach main amountPerKey rest) := by
  rw [distributeEach, Program.each, distributeToKey, if_neg different]
  constructor
  · intro covered
    have reached := covered (some (balances key))
    simp only [Option.getD_some, if_pos enough] at reached
    exact reached.mono fun exchanges _ holds truthful => holds ⟨rfl, truthful⟩
  · intro covered reply
    by_cases isTrue : (reply : Option Nat) = some (balances key)
    · subst isTrue
      simp only [Option.getD_some, if_pos enough]
      exact covered.mono fun exchanges _ holds truthful => holds truthful.2
    · exact .always fun _ _ truthful => absurd truthful.1 isTrue

/-- A key that lacks tokens is paid, if the deployer holds the amount. -/
theorem alwaysCovered_of_lacking
    {index : Nat}
    (different : key ≠ main)
    (lacking : ¬ amountPerKey ≤ balances key) :
    AlwaysCovered main balances (distributeEach main amountPerKey ((key, index) :: rest)) ↔
      amountPerKey ≤ balances main ∧ AlwaysCovered main (sendTokens main key amountPerKey balances)
          (distributeEach main amountPerKey rest) := by
  rw [distributeEach, Program.each, distributeToKey, if_neg different]
  constructor
  · intro covered
    have reached := covered (some (balances key))
    simp only [Option.getD_some, if_neg lacking] at reached
    by_cases held : amountPerKey ≤ balances main
    · exact ⟨held, (reached (some (true, 0))).mono fun exchanges _ holds truthful =>
        (holds ⟨rfl, fun _ => ⟨0, rfl⟩, truthful⟩).2⟩
    · have impossible := reached none ⟨rfl, fun enough => absurd enough held, trivial⟩
      exact absurd impossible.1 held
  · rintro ⟨held, covered⟩ reply
    by_cases isTrue : (reply : Option Nat) = some (balances key)
    · subst isTrue
      simp only [Option.getD_some, if_neg lacking]
      intro receipt
      by_cases succeeded : ∃ fee, (receipt : Option (Bool × Nat)) = some (true, fee)
      · obtain ⟨fee, rfl⟩ := succeeded
        exact covered.mono fun exchanges _ holds truthful => ⟨held, holds truthful.2.2⟩
      · exact .always fun _ _ truthful => absurd (truthful.2.1 held) succeeded
    · exact .always fun _ _ truthful => absurd truthful.1 isTrue

theorem alwaysCovered_each_iff (derived : List Address) (first : Nat)
    (distinct : (derived.filter (· ≠ main)).Nodup) :
    AlwaysCovered main balances
        (Program.each (distributeToKey main amountPerKey) (derived.zipIdx first)) ↔
      amountPerKey * (lackingKeys main amountPerKey balances derived).length ≤ balances main := by
  induction derived generalizing first balances with
  | nil => simp [AlwaysCovered, Program.each, Program.Traces, Covered, lackingKeys]
  | cons key rest ih =>
    rw [List.zipIdx_cons]
    by_cases isMain : key = main
    · rw [List.filter_cons_of_neg (by simpa using isMain)] at distinct
      have skipped : lackingKeys main amountPerKey balances (key :: rest) =
          lackingKeys main amountPerKey balances rest :=
        List.filter_cons_of_neg (by simp [isMain])
      rw [Program.each, distributeToKey, if_pos isMain, skipped]
      exact ih (first + 1) distinct
    · rw [List.filter_cons_of_pos (by simpa using isMain), List.nodup_cons] at distinct
      have absent : key ∉ rest := fun member =>
        distinct.1 (List.mem_filter.mpr ⟨member, by simpa using isMain⟩)
      by_cases enough : amountPerKey ≤ balances key
      · have skipped : lackingKeys main amountPerKey balances (key :: rest) =
            lackingKeys main amountPerKey balances rest :=
          List.filter_cons_of_neg (by simp [enough])
        rw [skipped, ← ih (first + 1) distinct.2]
        exact alwaysCovered_of_enough isMain enough
      · have counted : lackingKeys main amountPerKey balances (key :: rest) =
            key :: lackingKeys main amountPerKey balances rest :=
          List.filter_cons_of_pos (by simpa [isMain] using enough)
        have next := @ih (sendTokens main key amountPerKey balances) (first + 1)
          distinct.2
        have left : sendTokens main key amountPerKey balances main =
            balances main - amountPerKey := by
          simp [sendTokens, Function.update_of_ne (Ne.symm isMain)]
        rw [lackingKeys_sendTokens absent, left] at next
        rw [counted, List.length_cons, Nat.mul_succ]
        apply (alwaysCovered_of_lacking isMain enough).trans
        rw [distributeEach, next]
        omega

theorem nodup_filter_derivedKeys {wallets : Wallets} {sourceAxelarId : String} {sizing : RunSizing}
    {derived : List Address}
    (derives : derivedKeys wallets sourceAxelarId sizing .evm = some derived) :
    (derived.filter (· ≠ wallets.main)).Nodup := by
  have none (count : Nat) : (List.replicate count wallets.main).filter (· ≠ wallets.main) = [] := by
    simp
  by_cases hedera : sourceAxelarId = "hedera"
  · have same : derived = List.replicate sizing.numKeys wallets.main := by
      simpa [derivedKeys, hedera] using derives.symm
    rw [same, none]
    exact List.nodup_nil
  · by_cases single : sizing.numKeys ≤ 1
    · have same : derived = List.replicate sizing.numKeys wallets.main := by
        simpa [derivedKeys, hedera, Wallets.deriveEvmSigners, single] using derives.symm
      rw [same, none]
      exact List.nodup_nil
    · have collected : (List.range sizing.numKeys).mapM wallets.derive = some derived := by
        simpa [derivedKeys, hedera, Wallets.deriveEvmSigners, single] using derives
      exact (pooled_of_mapM collected).nodup.filter _

/-- Every transfer of the distribution is covered exactly when the deployer holds the amount of a
key for each key that lacks tokens. -/
theorem distribution_is_covered_iff
    (wallets : Wallets)
    (sourceAxelarId : String)
    (sizing : RunSizing)
    (derived : List Address)
    (derives : derivedKeys wallets sourceAxelarId sizing .evm = some derived)
    (decimals : Nat)
    (balances : Address → Nat) :
    AlwaysCovered wallets.main balances
        (distributeTokens wallets.main derived (distributedPerKey decimals)) ↔
      distributedPerKey decimals *
          (lackingKeys wallets.main (distributedPerKey decimals) balances derived).length ≤
        balances wallets.main :=
  alwaysCovered_each_iff derived 0 (nodup_filter_derivedKeys derives)

/-- Two keys that hold nothing, and a deployer that holds enough for both. -/
theorem two_keys_are_covered :
    AlwaysCovered numberedWallets.main (fun account => if account = 0 then 2 * 10 ^ 18 else 0)
      (distributeTokens numberedWallets.main [1, 2] (distributedPerKey 18)) :=
  (distribution_is_covered_iff numberedWallets "ethereum" ⟨.burst 2, 2, 2⟩ [1, 2] rfl 18
    (fun account => if account = 0 then 2 * 10 ^ 18 else 0)).mpr (by decide)

/-- A deployer that passes both checks for two keys cannot cover the first transfer. -/
theorem reused_token_is_not_enough : (⟨.burst 2, 2, 2⟩ : RunSizing).Accepted ∧
      configTokenSuffices (neededTokens ⟨.burst 2, 2, 2⟩) (some 18) (2 * 10 ^ 16) = true ∧
      cachedTokenSuffices (neededTokens ⟨.burst 2, 2, 2⟩) (2 * 10 ^ 16) = true ∧
      derivedKeys numberedWallets "ethereum" ⟨.burst 2, 2, 2⟩ .evm = some [1, 2] ∧
      ¬ AlwaysCovered numberedWallets.main
        (fun account => if account = 0 then 2 * 10 ^ 16 else 0)
        (distributeTokens numberedWallets.main [1, 2] (distributedPerKey 18)) := by
  refine ⟨⟨2, none, none, 1, by decide⟩, by decide, by decide, rfl, ?_⟩
  intro covered
  have bound := (alwaysCovered_each_iff [1, 2] 0 (by decide)).mp covered
  exact absurd bound (by decide)

end Axe.LoadTesting

import Axe.HardenedPlatform

namespace Axe.Hardened

/-!
# The two chains

The EVM chain is a list of blocks with a finalized front part.  It grows, it
drops blocks that are not finalized, and it finalizes more blocks.  No two
transactions on it have the same sender and nonce.

The Cosmos chain is the list of the results of included transactions.  A
transaction is executed when its sequence number is the next one of its
account, and consumes that number; other transactions can be included with an
error and without consuming anything.  A transaction is included once.

Both are structures that carry these rules, so a chain that breaks them cannot
be built.
-/

/-- The sender and the nonce of a transaction on the chain. -/
def evmSlot (lib : Platform) (entry : Envelope × Bool) : Option Address × U64 :=
  (lib.recoverAddress entry.1, entry.1.nonce)

/-- The transactions of some blocks with their status. -/
def blockEntries (blocks : List EvmBlock) : List (Envelope × Bool) :=
  blocks.flatMap EvmBlock.transactions

/-- The blocks and how many of them are final; no nonce of a sender is used twice. -/
structure EvmChain (lib : Platform) where
  blocks : List EvmBlock
  finalized : Nat
  finalized_le : finalized ≤ blocks.length
  slots_nodup : ((blockEntries blocks).map (evmSlot lib)).Nodup

/-- What happens on the EVM chain. -/
inductive EvmMove where
  | extend (block : EvmBlock)
  | reorganise (height : Nat)
  | finalize (height : Nat)
  deriving DecidableEq

theorem blockEntries_take_sublist (blocks : List EvmBlock) (height : Nat) :
    (blockEntries (blocks.take height)).Sublist (blockEntries blocks) :=
  (List.take_sublist height blocks).flatMap _

namespace EvmChain

variable {lib : Platform}

def move (chain : EvmChain lib) : EvmMove → Option (EvmChain lib)
  | .extend block =>
    if fresh : ((blockEntries (chain.blocks ++ [block])).map (evmSlot lib)).Nodup then
      some
        { chain with
          blocks := chain.blocks ++ [block]
          finalized_le := by
            have bound := chain.finalized_le
            simp only [List.length_append]
            omega
          slots_nodup := fresh }
    else
      none
  | .reorganise height =>
    if above : chain.finalized ≤ height then
      some
        { chain with
          blocks := chain.blocks.take height
          finalized_le := by
            have bound := chain.finalized_le
            simp only [List.length_take]
            omega
          slots_nodup :=
            chain.slots_nodup.sublist
              ((blockEntries_take_sublist chain.blocks height).map _) }
    else
      none
  | .finalize height =>
    if within : chain.finalized ≤ height ∧ height ≤ chain.blocks.length then
      some { chain with finalized := height, finalized_le := within.2 }
    else
      none

/-- The transaction is in a block of the chain. -/
def Includes (chain : EvmChain lib) (envelope : Envelope) (status : Bool) : Prop :=
  (envelope, status) ∈ blockEntries chain.blocks

/-- The transaction is in a final block. -/
def Finalizes (chain : EvmChain lib) (envelope : Envelope) (status : Bool) : Prop :=
  (envelope, status) ∈ blockEntries (chain.blocks.take chain.finalized)

instance (chain : EvmChain lib) (envelope : Envelope) (status : Bool) :
    Decidable (chain.Finalizes envelope status) :=
  inferInstanceAs (Decidable (_ ∈ _))

variable {chain : EvmChain lib} {envelope : Envelope}

theorem Finalizes.includes {status : Bool} (finalizes : chain.Finalizes envelope status) :
    chain.Includes envelope status :=
  (blockEntries_take_sublist chain.blocks chain.finalized).subset finalizes

theorem Includes.unique {first second : Envelope} {firstStatus secondStatus : Bool}
    (firstIncluded : chain.Includes first firstStatus)
    (secondIncluded : chain.Includes second secondStatus)
    (sameSender : lib.recoverAddress first = lib.recoverAddress second)
    (sameNonce : first.nonce = second.nonce) :
    first = second ∧ firstStatus = secondStatus := by
  have sameSlot : evmSlot lib (first, firstStatus) = evmSlot lib (second, secondStatus) := by
    simp [evmSlot, sameSender, sameNonce]
  have same := List.inj_on_of_nodup_map chain.slots_nodup firstIncluded secondIncluded sameSlot
  exact Prod.mk.inj same

variable {later : EvmChain lib}

theorem move_take_finalized {step : EvmMove} (moved : chain.move step = some later) :
    chain.finalized ≤ later.finalized ∧ later.blocks.take chain.finalized =
        chain.blocks.take chain.finalized := by
  cases step with
  | extend block =>
    simp only [move] at moved
    split at moved
    · cases moved
      refine ⟨le_rfl, ?_⟩
      exact List.take_append_of_le_length chain.finalized_le
    · cases moved
  | reorganise height =>
    simp only [move] at moved
    split at moved
    · rename_i above
      cases moved
      refine ⟨le_rfl, ?_⟩
      simp [List.take_take, Nat.min_eq_left above]
    · cases moved
  | finalize height =>
    simp only [move] at moved
    split at moved
    · rename_i within
      cases moved
      exact ⟨within.1, rfl⟩
    · cases moved

theorem Finalizes.move {step : EvmMove} {status : Bool}
    (finalizes : chain.Finalizes envelope status) (moved : chain.move step = some later) :
    later.Finalizes envelope status := by
  obtain ⟨grows, same⟩ := move_take_finalized moved
  have shorter : (later.blocks.take chain.finalized).Sublist
        (later.blocks.take later.finalized) := by
    have taken := List.take_sublist chain.finalized (later.blocks.take later.finalized)
    rwa [List.take_take, Nat.min_eq_left grows] at taken
  unfold Finalizes at finalizes ⊢
  rw [← same] at finalizes
  exact (shorter.flatMap _).subset finalizes

/-- A transaction with the nonce failed in a final block. -/
def FailedFinally (chain : EvmChain lib) (sender : Address) (nonce : U64) : Prop :=
  ∃ envelope, lib.recoverAddress envelope = some sender ∧ envelope.nonce = nonce ∧
      chain.Finalizes envelope false

/-- The transaction succeeded in a final block. -/
def SucceededFinally (chain : EvmChain lib) (hash : Digest) : Prop :=
  ∃ envelope, lib.txHash envelope = hash ∧ chain.Finalizes envelope true

end EvmChain

/-- The result of an executed transaction. -/
structure CosmosResult where
  hash : Digest
  sender : String
  sequence : Nat
  height : Nat
  code : Nat
  consumed : Bool
  deriving DecidableEq

/-- The account and its sequence number. -/
def CosmosResult.slot (result : CosmosResult) : String × Nat := (result.sender, result.sequence)

/-- The sequence number that an account uses next. -/
def nextSequence (sequences : Map String Nat) (sender : String) : Nat :=
  (sequences.lookup sender).getD 0

/-- The results and the next sequence numbers. -/
structure CosmosChain (lib : Platform) where
  results : List CosmosResult
  sequences : Map String Nat
  hashes_nodup : (results.map CosmosResult.hash).Nodup
  consumed_nodup : ((results.filter CosmosResult.consumed).map CosmosResult.slot).Nodup
  consumed_below : ∀ result ∈ results, result.consumed = true →
      result.sequence < nextSequence sequences result.sender
  success_consumed : ∀ result ∈ results, result.code = 0 → result.consumed = true
  results_made : ∀ result ∈ results, ∃ raw, result.hash = lib.sha256 raw ∧
        lib.cosmosSlot raw = some result.slot

/-- What happens on the Cosmos chain. -/
inductive CosmosMove where
  | execute (raw : Bytes) (height code : Nat)
  | reject (raw : Bytes) (height code : Nat)
  deriving DecidableEq

namespace CosmosChain

variable {lib : Platform}

/-- The chain after a transaction was executed. -/
def execute (chain : CosmosChain lib) (result : CosmosResult)
    (made : ∃ raw, result.hash = lib.sha256 raw ∧ lib.cosmosSlot raw = some result.slot)
    (next : result.sequence = nextSequence chain.sequences result.sender)
    (consumed : result.consumed = true)
    (fresh : result.hash ∉ chain.results.map CosmosResult.hash) :
    CosmosChain lib where
  results := result :: chain.results
  sequences := chain.sequences.insert result.sender (result.sequence + 1)
  hashes_nodup := List.nodup_cons.mpr ⟨fresh, chain.hashes_nodup⟩
  consumed_nodup := by
    rw [List.filter_cons_of_pos consumed]
    refine List.nodup_cons.mpr ⟨?_, chain.consumed_nodup⟩
    intro member
    obtain ⟨earlier, kept, sameSlot⟩ := List.mem_map.mp member
    obtain ⟨listed, earlierConsumed⟩ := List.mem_filter.mp kept
    have below := chain.consumed_below earlier listed earlierConsumed
    obtain ⟨sameSender, sameSequence⟩ := Prod.mk.inj sameSlot
    rw [sameSender, ← next, sameSequence] at below
    exact Nat.lt_irrefl _ below
  consumed_below := by
    intro earlier member earlierConsumed
    by_cases sameSender : earlier.sender = result.sender
    · rw [sameSender]
      simp only [nextSequence, AList.lookup_insert, Option.getD_some]
      rcases List.mem_cons.mp member with isNew | listed
      · subst isNew
        exact Nat.lt_succ_self _
      · have below := chain.consumed_below earlier listed earlierConsumed
        rw [sameSender, ← next] at below
        exact Nat.lt_succ_of_lt below
    · rcases List.mem_cons.mp member with isNew | listed
      · exact absurd (congrArg CosmosResult.sender isNew) sameSender
      · have below := chain.consumed_below earlier listed earlierConsumed
        simpa [nextSequence, AList.lookup_insert_ne sameSender] using below
  success_consumed := by
    intro earlier member success
    rcases List.mem_cons.mp member with isNew | listed
    · exact isNew ▸ consumed
    · exact chain.success_consumed earlier listed success
  results_made := by
    intro earlier member
    rcases List.mem_cons.mp member with isNew | listed
    · exact isNew ▸ made
    · exact chain.results_made earlier listed

/-- Include a transaction with an error; it consumes nothing. -/
def reject (chain : CosmosChain lib) (result : CosmosResult)
    (made : ∃ raw, result.hash = lib.sha256 raw ∧ lib.cosmosSlot raw = some result.slot)
    (failed : result.code ≠ 0) (unconsumed : result.consumed = false)
    (fresh : result.hash ∉ chain.results.map CosmosResult.hash) :
    CosmosChain lib where
  results := result :: chain.results
  sequences := chain.sequences
  hashes_nodup := List.nodup_cons.mpr ⟨fresh, chain.hashes_nodup⟩
  consumed_nodup := by
    rw [List.filter_cons_of_neg (by simp [unconsumed])]
    exact chain.consumed_nodup
  consumed_below := by
    intro earlier member earlierConsumed
    rcases List.mem_cons.mp member with isNew | listed
    · subst isNew
      rw [unconsumed] at earlierConsumed
      cases earlierConsumed
    · exact chain.consumed_below earlier listed earlierConsumed
  success_consumed := by
    intro earlier member success
    rcases List.mem_cons.mp member with isNew | listed
    · exact absurd (isNew ▸ success) failed
    · exact chain.success_consumed earlier listed success
  results_made := by
    intro earlier member
    rcases List.mem_cons.mp member with isNew | listed
    · exact isNew ▸ made
    · exact chain.results_made earlier listed

def move (chain : CosmosChain lib) : CosmosMove → Option (CosmosChain lib)
  | .execute raw height code =>
    match slot : lib.cosmosSlot raw with
    | none => none
    | some (sender, sequence) =>
      let result : CosmosResult := ⟨lib.sha256 raw, sender, sequence, height, code, true⟩
      if possible : 0 < height ∧ sequence = nextSequence chain.sequences sender ∧
            result.hash ∉ chain.results.map CosmosResult.hash then
        some
          (chain.execute result ⟨raw, rfl, slot⟩ possible.2.1 rfl possible.2.2)
      else
        none
  | .reject raw height code =>
    match slot : lib.cosmosSlot raw with
    | none => none
    | some (sender, sequence) =>
      let result : CosmosResult := ⟨lib.sha256 raw, sender, sequence, height, code, false⟩
      if possible : 0 < height ∧ code ≠ 0 ∧ result.hash ∉ chain.results.map CosmosResult.hash then
        some
          (chain.reject result ⟨raw, rfl, slot⟩ possible.2.1 rfl possible.2.2)
      else
        none

/-- The transaction has a result with this code. -/
def Results (chain : CosmosChain lib) (hash : Digest) (code : Nat) : Prop :=
  ∃ result ∈ chain.results, result.hash = hash ∧ result.code = code

instance (chain : CosmosChain lib) (hash : Digest) (code : Nat) :
    Decidable (chain.Results hash code) :=
  inferInstanceAs (Decidable (∃ _ ∈ _, _))

variable {chain : CosmosChain lib}

theorem Results.unique {hash : Digest} {first second : Nat} (firstResult : chain.Results hash first)
    (secondResult : chain.Results hash second) :
    first = second := by
  obtain ⟨one, oneListed, oneHash, oneCode⟩ := firstResult
  obtain ⟨other, otherListed, otherHash, otherCode⟩ := secondResult
  have same := List.inj_on_of_nodup_map chain.hashes_nodup oneListed otherListed
      (oneHash.trans otherHash.symm)
  rw [← oneCode, ← otherCode, same]

theorem Results.success_unique {first second : Bytes} {slot : String × Nat}
    (firstSuccess : chain.Results (lib.sha256 first) 0)
    (secondSuccess : chain.Results (lib.sha256 second) 0)
    (firstSlot : lib.cosmosSlot first = some slot)
    (secondSlot : lib.cosmosSlot second = some slot) :
    first = second := by
  obtain ⟨one, oneListed, oneHash, oneCode⟩ := firstSuccess
  obtain ⟨other, otherListed, otherHash, otherCode⟩ := secondSuccess
  have slotOf : ∀ result ∈ chain.results, ∀ raw, result.hash = lib.sha256 raw →
        lib.cosmosSlot raw = some slot → result.slot = slot := by
    intro result listed raw hash sameSlot
    obtain ⟨bytes, made, madeSlot⟩ := chain.results_made result listed
    have sameBytes : raw = bytes := lib.sha256_injective (hash.symm.trans made)
    subst sameBytes
    exact Option.some.inj (madeSlot.symm.trans sameSlot)
  have consumed : ∀ result ∈ chain.results, result.code = 0 →
        result ∈ chain.results.filter CosmosResult.consumed := by
    intro result listed success
    exact List.mem_filter.mpr ⟨listed, chain.success_consumed result listed success⟩
  have same : one = other := List.inj_on_of_nodup_map chain.consumed_nodup
      (consumed one oneListed oneCode) (consumed other otherListed otherCode)
      ((slotOf one oneListed first oneHash firstSlot).trans
        (slotOf other otherListed second otherHash secondSlot).symm)
  refine lib.sha256_injective ?_
  rw [← oneHash, ← otherHash, same]

variable {later : CosmosChain lib}

theorem move_results {step : CosmosMove} (moved : chain.move step = some later) :
    ∃ result, later.results = result :: chain.results := by
  cases step with
  | execute raw height code =>
    simp only [move] at moved
    split at moved
    · cases moved
    · split at moved
      · cases moved
        exact ⟨_, rfl⟩
      · cases moved
  | reject raw height code =>
    simp only [move] at moved
    split at moved
    · cases moved
    · split at moved
      · cases moved
        exact ⟨_, rfl⟩
      · cases moved

theorem Results.move {step : CosmosMove} {hash : Digest} {code : Nat}
    (results : chain.Results hash code) (moved : chain.move step = some later) :
    later.Results hash code := by
  obtain ⟨result, listed, same⟩ := results
  obtain ⟨_, grown⟩ := move_results moved
  exact ⟨result, grown ▸ List.mem_cons_of_mem _ listed, same⟩

end CosmosChain

/-- What was handed to one of the chains. -/
inductive Handed where
  | evm (raw : Bytes)
  | cosmos (raw : Bytes)
  deriving DecidableEq

/-- The two chains, and everything the deployment ever handed to a node. -/
structure Chains (lib : Platform) where
  evm : EvmChain lib
  cosmos : CosmosChain lib
  handed : List Handed

/-- What happens on one of the chains. -/
inductive ChainMove where
  | evm (step : EvmMove)
  | cosmos (step : CosmosMove)
  deriving DecidableEq

namespace Chains

variable {lib : Platform}

def move (chains : Chains lib) : ChainMove → Option (Chains lib)
  | .evm step => (chains.evm.move step).map fun later => { chains with evm := later }
  | .cosmos step => (chains.cosmos.move step).map fun later => { chains with cosmos := later }

/-- One step of the world around the deployment. -/
def Evolve (chains later : Chains lib) : Prop := ∃ step, chains.move step = some later

variable {chains later : Chains lib}

theorem Evolve.cases (evolve : chains.Evolve later) : later.handed = chains.handed ∧
      ((∃ step, chains.evm.move step = some later.evm) ∧ later.cosmos = chains.cosmos ∨
        (∃ step, chains.cosmos.move step = some later.cosmos) ∧ later.evm = chains.evm) := by
  obtain ⟨step, moved⟩ := evolve
  cases step with
  | evm step =>
    obtain ⟨chain, stepped, rfl⟩ := Option.map_eq_some_iff.mp moved
    exact ⟨rfl, .inl ⟨⟨step, stepped⟩, rfl⟩⟩
  | cosmos step =>
    obtain ⟨chain, stepped, rfl⟩ := Option.map_eq_some_iff.mp moved
    exact ⟨rfl, .inr ⟨⟨step, stepped⟩, rfl⟩⟩

theorem failedFinally_evolve {sender : Address} {nonce : U64}
    (failed : chains.evm.FailedFinally sender nonce) (evolve : chains.Evolve later) :
    later.evm.FailedFinally sender nonce := by
  obtain ⟨envelope, signed, sameNonce, finalizes⟩ := failed
  obtain ⟨_, ⟨⟨step, moved⟩, _⟩ | ⟨_, unchanged⟩⟩ := evolve.cases
  · exact ⟨envelope, signed, sameNonce, finalizes.move moved⟩
  · exact ⟨envelope, signed, sameNonce, unchanged ▸ finalizes⟩

theorem results_evolve {hash : Digest} {code : Nat} (results : chains.cosmos.Results hash code)
    (evolve : chains.Evolve later) :
    later.cosmos.Results hash code := by
  obtain ⟨_, ⟨_, unchanged⟩ | ⟨⟨step, moved⟩, _⟩⟩ := evolve.cases
  · exact unchanged ▸ results
  · exact results.move moved

end Chains

end Axe.Hardened

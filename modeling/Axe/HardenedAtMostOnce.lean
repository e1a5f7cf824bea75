import Axe.HardenedHistory

namespace Axe.Hardened

/-!
# At most one success

Several signed transactions of one action coexist: the first one, its fee
replacements and, after a retirement, retries.  Replacements spend the same
nonce or sequence number, so the chain lets at most one of them succeed.  A
retry spends another one, so before it is signed all transactions for the old
one must have failed for good.
-/

/-- The current transaction of the key is moved to the past ones. -/
def Retires (key : ActionKey) (old : Transaction) (journal later : Journal) : Prop :=
  journal.get key = some old ∧ later.ledger key = ⟨journal.past key ++ [old], none⟩

variable {lib : Platform} {world : Chains lib}

theorem retires_of_change {honest : Prop} {plan : Plan} {here here' : Station}
    {world' : Chains lib} {key : ActionKey} {old : Transaction}
    (change : (deployService lib honest plan).Change
        (Transition lib honest plan anyRecord) here world here' world')
    (retires : Retires key old here.memory here'.memory) :
    KeyMove lib honest plan world (fun _ _ => True) here.memory key
      ⟨here.memory.past key ++ [old], none⟩ := by
  obtain ⟨current, retired⟩ := retires
  have changed : here'.memory ≠ here.memory := by
    intro same
    have absent := congrArg Ledger.current retired
    rw [same] at absent
    cases current.symm.trans absent
  cases change with
  | environment _ => exact absurd rfl changed
  | boot _ =>
    -- A new process has no attempts at all.
    have noPast := congrArg Ledger.past retired
    simp [Journal.ledger, deployService, Station.boot] at noPast
  | perform kept =>
    rcases kept.memory_cases with same | ⟨closed, _⟩ | ⟨_, move⟩
    · exact absurd same changed
    · rw [closed] at current
      simp at current
    · exact retired ▸ move.atKey key
  | stop => exact absurd rfl changed

theorem KeyMove.retired {honest : Prop} {plan : Plan} {records : ActionKey → Transaction → Prop}
    {journal : Journal} {key : ActionKey} {ledger : Ledger Transaction} {old : Transaction}
    (move : KeyMove lib honest plan world records journal key ledger)
    (before : journal.get key = some old) (after : ledger.current = none) :
    ledger = ⟨journal.past key ++ [old], none⟩ := by
  cases move with
  | keep same =>
    rw [same] at after
    cases before.symm.trans after
  | recordEvm _ _ _ grown | recordCosmos _ _ _ grown
  | replaceEvm _ _ _ grown | replaceCosmos _ _ _ grown =>
    rw [grown] at after
    cases after
  | retireEvm retired current _ _ grown | retireCosmos retired current _ _ grown =>
    cases current.symm.trans before
    exact grown

section Evm

variable {lib : Platform} {honest : Prop} {plan : Plan}

/-- The nonce was used by a transaction that failed, in a final block. -/
def EvmLost (chain : EvmChain lib) : Transaction → Prop
  | .evm tx => chain.FailedFinally tx.sender tx.nonce
  | .cosmos _ => True

theorem evm_settled (permit : Journal → Journal → Prop) :
    JournalInvariant lib honest plan permit fun journal evm _ =>
      honest → ∀ key, (journal.ledger key).Settled Transaction.slot (EvmLost evm) where
  empty := by
    intro fingerprint evm _ _ key
    have noPast : (Journal.empty fingerprint).past key = [] := by simp
    rw [Journal.ledger, noPast]
    exact Ledger.settled_nil _ _ _
  evolve := by
    intro journal world later evolved before trusted key
    refine (before trusted key).mono fun attempt lost => ?_
    cases attempt with
    | evm tx => exact Chains.failedFinally_evolve lost evolved
    | cosmos _ => trivial
  move := by
    intro records journal later world move _ before trusted key
    have change := move.atKey key
    refine (before trusted key).move change.ledgerMove ?_ ?_
    · intro old attempt isCurrent nowCurrent
      exact change.same_slot isCurrent nowCurrent
    · intro old isCurrent nowAbsent attempt _ sameSlot
      cases change with
      | retireEvm retired current _ failed _ =>
        cases current.symm.trans isCurrent
        cases attempt with
        | evm tx =>
          simp only [Transaction.slot, Sum.inl.injEq, Prod.mk.injEq] at sameSlot
          simpa [EvmLost, sameSlot.1, sameSlot.2] using failed trusted
        | cosmos _ => trivial
      | retireCosmos retired current _ _ _ =>
        cases current.symm.trans isCurrent
        cases attempt with
        | evm tx => simp [Transaction.slot] at sameSlot
        | cosmos _ => trivial
      | keep same =>
        rw [same] at nowAbsent
        cases isCurrent.symm.trans nowAbsent
      | recordEvm _ _ _ grown | recordCosmos _ _ _ grown
      | replaceEvm _ _ _ grown | replaceCosmos _ _ _ grown =>
        rw [grown] at nowAbsent
        cases nowAbsent

theorem succeeded_open {chain : EvmChain lib} {tx : EvmTransaction} {envelope : Envelope}
    (made : EvmMade lib tx envelope) (succeeds : chain.SucceededFinally tx.hash) :
    chain.Finalizes envelope true ∧ ¬ EvmLost chain (.evm tx) := by
  obtain ⟨included, hashed, finalizes⟩ := succeeds
  have same : included = envelope := lib.txHash_injective (hashed.trans made.hash)
  subst same
  refine ⟨finalizes, ?_⟩
  rintro ⟨failed, sender, nonce, failedFinally⟩
  have outcome := (finalizes.includes.unique failedFinally.includes
      (made.sender.trans sender.symm) (made.nonce.trans nonce.symm)).2
  cases outcome

/--
Whatever sends, resumptions, fee replacements, retirements, crashes and
reorganisations a deployment goes through, at most one transaction recorded for
an action is successful on the finalized chain, and an action is retired only
when a transaction with its sender and nonce is finalized as failed.
-/
theorem evm_succeeds_at_most_once
    {first last : DeployConfig lib}
    (initial : first.Initial)
    (run : DeployRuns lib True plan anyChange first last)
    (key : ActionKey) :
    (∀ one two : EvmTransaction, .evm one ∈ last.here.fileHistory key →
        .evm two ∈ last.here.fileHistory key →
        last.world.evm.SucceededFinally one.hash →
        last.world.evm.SucceededFinally two.hash →
        one.hash = two.hash) ∧
      ∀ next old, (deployService lib True plan).Step last next →
        Retires key (.evm old) last.here.memory next.here.memory →
        last.world.evm.FailedFinally old.sender old.nonce := by
  obtain ⟨settled, lawful⟩ := (evm_settled anyChange).reached run initial
  obtain ⟨made, _⟩ := made_invariant.reached run initial
  constructor
  · intro one two oneMember twoMember oneSucceeds twoSucceeds
    obtain ⟨file, onDisk, oneListed⟩ := mem_fileHistory oneMember
    obtain ⟨sameFile, sameDisk, twoListed⟩ := mem_fileHistory twoMember
    cases onDisk.symm.trans sameDisk
    obtain ⟨oneEnvelope, oneMade⟩ := made.2 file onDisk key _ oneListed
    obtain ⟨twoEnvelope, twoMade⟩ := made.2 file onDisk key _ twoListed
    obtain ⟨oneFinal, oneOpen⟩ := succeeded_open oneMade oneSucceeds
    obtain ⟨twoFinal, twoOpen⟩ := succeeded_open twoMade twoSucceeds
    have slots := (settled.2 file onDisk trivial key).same_slot oneListed twoListed oneOpen twoOpen
    simp only [Transaction.slot, Sum.inl.injEq, Prod.mk.injEq] at slots
    have same : oneEnvelope = twoEnvelope := by
      refine (oneFinal.includes.unique twoFinal.includes ?_ ?_).1
      · rw [oneMade.sender, twoMade.sender, slots.1]
      · rw [oneMade.nonce, twoMade.nonce, slots.2]
    rw [oneMade.hash, twoMade.hash, same]
  · intro next old step retires
    have move := retires_of_change (lawful.change step) retires
    cases move with
    | retireEvm retired current _ failed _ =>
      cases current.symm.trans retires.1
      exact failed trivial
    | retireCosmos retired current _ _ _ => cases current.symm.trans retires.1
    | keep same => cases (congrArg Ledger.current same).trans retires.1
    | recordEvm _ _ _ grown | recordCosmos _ _ _ grown
    | replaceEvm _ _ _ grown | replaceCosmos _ _ _ grown => cases congrArg Ledger.current grown

end Evm

namespace Sample

/-- The probe fails for good, is retired, and succeeds with the next nonce. -/
def probeScript : Script :=
  [ .launch (sendProbe {}), .answer .prompt 18, .stop,
    .world (.evm (.extend ⟨[], [(probeEnvelope 0, false)]⟩)),
    .world (.evm (.finalize 1)),
    .launch (recoverProbe { retryFailed := some probeKey.text }),
    .answer .prompt 18, .stop,
    .launch (sendProbe {}), .answer .prompt 18, .stop,
    .world (.evm (.extend ⟨[], [(probeEnvelope 1, true)]⟩)),
    .world (.evm (.finalize 2)) ]

end Sample

open Sample in
/-- The result at a run with a retirement and a success after it. -/
theorem evm_succeeds_after_retirement : ∃ last : DeployConfig Sample.platform,
      DeployRuns Sample.platform True Sample.plan anyChange start last ∧
      (probeNonces last.here = [some 0, some 1] ∧ last.world.evm.Finalizes (probeEnvelope 0) false ∧
        last.world.evm.Finalizes (probeEnvelope 1) true) ∧
      ∀ one two : EvmTransaction, .evm one ∈ last.here.fileHistory probeKey →
        .evm two ∈ last.here.fileHistory probeKey →
        last.world.evm.SucceededFinally one.hash →
        last.world.evm.SucceededFinally two.hash →
        one.hash = two.hash := by
  obtain ⟨last, run, found⟩ := @replay_run anyChange _ probeScript
      (fun last => probeNonces last.here = [some 0, some 1] ∧
        last.world.evm.Finalizes (probeEnvelope 0) false ∧
        last.world.evm.Finalizes (probeEnvelope 1) true) _ (by decide +kernel)
  exact ⟨last, run, found, (evm_succeeds_at_most_once start_initial run probeKey).1⟩

section Cosmos

variable {lib : Platform} {honest : Prop} {plan : Plan}

/-- The journal has a failure of the transaction. -/
def recordedFailure (journal : Journal) (tx : CosmosTransaction) : Bool :=
  match journal.confirmation (.cosmos tx.hash) with
  | some (.cosmos height code _) => decide (0 < height ∧ code ≠ 0)
  | _ => false

variable {tx : CosmosTransaction}

theorem exists_of_recordedFailure {journal : Journal}
    (failure : recordedFailure journal tx = true) :
    ∃ height code response,
      journal.confirmation (.cosmos tx.hash) = some (.cosmos height code response) ∧ code ≠ 0 := by
  unfold recordedFailure at failure
  split at failure
  · rename_i height code response recorded
    exact ⟨height, code, response, recorded, (of_decide_eq_true failure).2⟩
  · cases failure

/--
A Cosmos action is retired only when the journal has a failed result for every
transaction that was recorded for its sequence number.
-/
def FullyProven (journal later : Journal) : Prop :=
  ∀ key old, Retires key (.cosmos old) journal later →
    ∀ attempt, .cosmos attempt ∈ journal.history key →
      attempt.sender = old.sender → attempt.sequence = old.sequence →
        recordedFailure journal attempt = true

def Transaction.asCosmos : Transaction → Option CosmosTransaction
  | .evm _ => none
  | .cosmos tx => some tx

theorem Transaction.asCosmos_eq_some {transaction : Transaction} :
    transaction.asCosmos = some tx ↔ transaction = .cosmos tx := by
  cases transaction <;> simp [Transaction.asCosmos]

theorem fullyProven_iff {journal later : Journal} : FullyProven journal later ↔
      ∀ entry ∈ journal.actions.entries, ∀ old ∈ entry.2.asCosmos, later.ledger entry.1 =
            ⟨journal.past entry.1 ++ [Transaction.cosmos old], none⟩ →
          ∀ attempt ∈ (journal.history entry.1).filterMap Transaction.asCosmos,
            attempt.sender = old.sender → attempt.sequence = old.sequence →
              recordedFailure journal attempt = true := by
  constructor
  · rintro proven ⟨key, transaction⟩ listed old isOld retired attempt member
    have current : journal.get key = some (.cosmos old) := by
      rw [← Transaction.asCosmos_eq_some.mp isOld]
      exact AList.mem_lookup_iff.mpr listed
    obtain ⟨recorded, inHistory, isAttempt⟩ := List.mem_filterMap.mp member
    rw [Transaction.asCosmos_eq_some.mp isAttempt] at inHistory
    exact proven key old ⟨current, retired⟩ attempt inHistory
  · rintro checked key old ⟨current, retired⟩ attempt inHistory
    refine checked ⟨key, .cosmos old⟩ (AList.mem_lookup_iff.mp current) old rfl retired attempt ?_
    exact List.mem_filterMap.mpr ⟨.cosmos attempt, inHistory, rfl⟩

instance (journal later : Journal) : Decidable (FullyProven journal later) :=
  decidable_of_iff' _ fullyProven_iff

/-- The results in the journal are those of the chain. -/
def ResultsTrue (journal : Journal) (chain : CosmosChain lib) : Prop :=
  ∀ hash height code response,
    journal.confirmation (.cosmos hash) = some (.cosmos height code response) →
      chain.Results hash code

theorem results_invariant (permit : Journal → Journal → Prop) :
    JournalInvariant lib honest plan permit fun journal _ cosmos =>
      honest → ResultsTrue journal cosmos where
  empty := by
    intro fingerprint _ _ _ hash height code response confirmed
    simp [Journal.confirmation, Journal.empty] at confirmed
  evolve := by
    intro journal world later evolved before trusted hash height code response confirmed
    exact Chains.results_evolve (before trusted hash height code response confirmed) evolved
  move := by
    intro records journal later world move _ before trusted hash height code response confirmed
    cases move with
    | confirmCosmos told toldHeight toldCode toldResponse sound =>
      by_cases same : HashText.cosmos hash = .cosmos told
      · rw [same, Journal.confirmation_confirm_self] at confirmed
        cases confirmed
        cases same
        exact sound trusted
      · rw [Journal.confirmation_confirm_ne _ _ same] at confirmed
        exact before trusted hash height code response confirmed
    | confirmEvm receipt _ =>
      have different : HashText.cosmos hash ≠ .evm receipt.transactionHash := by
        intro same
        cases same
      rw [Journal.confirmation_confirm_ne _ _ different] at confirmed
      exact before trusted hash height code response confirmed
    | retireEvm key old gasLimit _ _ _ =>
      cases gasLimit <;> exact before trusted hash height code response confirmed
    | retireCosmos key old gasLimit _ _ _ =>
      cases gasLimit <;> exact before trusted hash height code response confirmed
    | other later same =>
      rw [Journal.confirmation, same.confirmations] at confirmed
      exact before trusted hash height code response confirmed
    | _ => exact before trusted hash height code response confirmed

/-- The result of the transaction is a failure. -/
def CosmosLost (chain : CosmosChain lib) : Transaction → Prop
  | .evm _ => True
  | .cosmos tx => ∃ code, code ≠ 0 ∧ chain.Results tx.hash code

theorem cosmos_settled : JournalInvariant lib honest plan FullyProven fun journal _ cosmos =>
      (honest → ResultsTrue journal cosmos) ∧ (honest → ∀ key,
          (journal.ledger key).Settled Transaction.slot (CosmosLost cosmos)) := by
  refine (results_invariant FullyProven).extend ?_ ?_ ?_
  · intro fingerprint evm cosmos _ key
    have noPast : (Journal.empty fingerprint).past key = [] := by simp
    rw [Journal.ledger, noPast]
    exact Ledger.settled_nil _ _ _
  · intro journal world later evolved before trusted key
    refine (before trusted key).mono fun attempt lost => ?_
    cases attempt with
    | evm _ => trivial
    | cosmos tx =>
      obtain ⟨code, failed, results⟩ := lost
      exact ⟨code, failed, Chains.results_evolve results evolved⟩
  · intro records journal later world move proven results before trusted key
    have change := move.atKey key
    refine (before trusted key).move change.ledgerMove ?_ ?_
    · intro old attempt isCurrent nowCurrent
      exact change.same_slot isCurrent nowCurrent
    · intro old isCurrent nowAbsent attempt listed sameSlot
      cases attempt with
      | evm _ => trivial
      | cosmos tx =>
        cases old with
        | evm _ => simp [Transaction.slot] at sameSlot
        | cosmos retired =>
          have retires : Retires key (.cosmos retired) journal later :=
            ⟨isCurrent, change.retired isCurrent nowAbsent⟩
          simp only [Transaction.slot, Sum.inr.injEq, Prod.mk.injEq] at sameSlot
          obtain ⟨height, code, response, recorded, failed⟩ := exists_of_recordedFailure
              (proven key retired retires tx listed sameSlot.1 sameSlot.2)
          exact ⟨code, failed, results trusted _ _ _ _ recorded⟩

/--
Suppose a Cosmos action is only ever retired when the journal has a failed
result for every transaction of its sequence number.  Then at most one
transaction recorded for an action executes successfully, and no transaction
for the sequence number of a retired one has succeeded when it is retired.
-/
theorem cosmos_succeeds_at_most_once
    {first last : DeployConfig lib}
    (initial : first.Initial)
    (run : DeployRuns lib True plan FullyProven first last)
    (key : ActionKey) :
    (∀ one two : CosmosTransaction, .cosmos one ∈ last.here.fileHistory key →
        .cosmos two ∈ last.here.fileHistory key →
        last.world.cosmos.Results one.hash 0 →
        last.world.cosmos.Results two.hash 0 →
        one.hash = two.hash) ∧
      ∀ next old, (deployService lib True plan).Step last next →
        FullyProven last.here.memory next.here.memory →
        Retires key (.cosmos old) last.here.memory next.here.memory →
        ∀ attempt, .cosmos attempt ∈ last.here.memory.history key →
          attempt.sender = old.sender → attempt.sequence = old.sequence →
            ¬ last.world.cosmos.Results attempt.hash 0 := by
  obtain ⟨settled, _⟩ := cosmos_settled.reached run initial
  obtain ⟨made, _⟩ := made_invariant.reached run initial
  constructor
  · intro one two oneMember twoMember oneSucceeds twoSucceeds
    obtain ⟨file, onDisk, oneListed⟩ := mem_fileHistory oneMember
    obtain ⟨sameFile, sameDisk, twoListed⟩ := mem_fileHistory twoMember
    cases onDisk.symm.trans sameDisk
    have isOpen : ∀ tx : CosmosTransaction, last.world.cosmos.Results tx.hash 0 →
          ¬ CosmosLost last.world.cosmos (.cosmos tx) := by
      rintro tx succeeds ⟨code, failed, results⟩
      exact failed (results.unique succeeds)
    have slots := ((settled.2 file onDisk).2 trivial key).same_slot oneListed twoListed
        (isOpen one oneSucceeds) (isOpen two twoSucceeds)
    simp only [Transaction.slot, Sum.inr.injEq] at slots
    have oneMade : CosmosMade lib one := made.2 file onDisk key _ oneListed
    have twoMade : CosmosMade lib two := made.2 file onDisk key _ twoListed
    rw [oneMade.hash] at oneSucceeds
    rw [twoMade.hash] at twoSucceeds
    have same : one.raw = two.raw :=
      oneSucceeds.success_unique twoSucceeds oneMade.slot (slots ▸ twoMade.slot)
    rw [oneMade.hash, twoMade.hash, same]
  · intro next old _ proven retires attempt listed sender sequence succeeds
    obtain ⟨_, code, _, recorded, failed⟩ := exists_of_recordedFailure
        (proven key old retires attempt listed sender sequence)
    exact failed ((settled.1.1 trivial _ _ _ _ recorded).unique succeeds)

end Cosmos

namespace Sample

/-- The payment fails, is retired, and succeeds with the next sequence number. -/
def provenScript : Script :=
  [ .launch sendRewards, .answer .prompt 16, .stop,
    .world (.cosmos (.execute (rewardsRaw 0 3000) 2 5)),
    .launch (recoverRewards { retryFailed := some rewardsKey.text }),
    .answer .prompt 20, .stop,
    .launch sendRewards, .answer .prompt 16, .stop,
    .world (.cosmos (.execute (rewardsRaw 1 3000) 3 0)) ]

end Sample

open Sample in
/-- The result at a run with a retirement and a success after it. -/
theorem cosmos_succeeds_after_retirement : ∃ last : DeployConfig Sample.platform,
      DeployRuns Sample.platform True Sample.plan FullyProven start last ∧
      (last.here.fileHistory rewardsKey =
          [.cosmos (rewardsTransaction 0 3000), .cosmos (rewardsTransaction 1 3000)] ∧
        last.world.cosmos.Results (rewardsTransaction 1 3000).hash 0) ∧
      ∀ one two : CosmosTransaction, .cosmos one ∈ last.here.fileHistory rewardsKey →
        .cosmos two ∈ last.here.fileHistory rewardsKey →
        last.world.cosmos.Results one.hash 0 →
        last.world.cosmos.Results two.hash 0 →
        one.hash = two.hash := by
  obtain ⟨last, run, found⟩ := @replay_run FullyProven _ provenScript (fun last =>
        last.here.fileHistory rewardsKey = [.cosmos (rewardsTransaction 0 3000),
              .cosmos (rewardsTransaction 1 3000)] ∧
          last.world.cosmos.Results (rewardsTransaction 1 3000).hash 0)
      _ (by decide +kernel)
  exact ⟨last, run, found, (cosmos_succeeds_at_most_once start_initial run rewardsKey).1⟩

open Sample in
/-- Without the condition two broadcast transactions of one action can succeed. -/
theorem cosmos_pays_twice : ∃ last : DeployConfig Sample.platform,
      DeployRuns Sample.platform True Sample.plan anyChange start last ∧
      last.here.fileHistory rewardsKey =
        [.cosmos (rewardsTransaction 0 3000), .cosmos (rewardsTransaction 0 5000),
          .cosmos (rewardsTransaction 1 3000)] ∧
      last.world.cosmos.Results (rewardsTransaction 0 3000).hash 0 ∧
      last.world.cosmos.Results (rewardsTransaction 1 3000).hash 0 ∧
      (rewardsTransaction 0 3000).hash ≠ (rewardsTransaction 1 3000).hash ∧
      Handed.cosmos (rewardsTransaction 0 3000).raw ∈ last.world.handed ∧
      Handed.cosmos (rewardsTransaction 1 3000).raw ∈ last.world.handed :=
  @replay_run anyChange _ paidTwiceScript _ _ (by decide +kernel)

/-- After every run the Cosmos results in memory and in the file are those of the chain. -/
theorem recorded_results_are_true
    {lib : Platform}
    {plan : Plan}
    {first last : DeployConfig lib}
    (initial : first.Initial)
    (run : DeployRuns lib True plan anyChange first last) :
    ResultsTrue last.here.memory last.world.cosmos ∧
      ∀ file ∈ last.here.disk, ResultsTrue file last.world.cosmos := by
  obtain ⟨recorded, _⟩ := (results_invariant anyChange).reached run initial
  exact ⟨recorded.1 trivial, fun file onDisk => recorded.2 file onDisk trivial⟩

open Sample in
/-- A run that records the failure of a payment. -/
theorem recorded_failure_is_true : ∃ last : DeployConfig Sample.platform,
    recordedFailure last.here.memory (rewardsTransaction 0 5000) = true ∧
      ResultsTrue last.here.memory last.world.cosmos := by
  obtain ⟨last, run, found⟩ := @replay_run anyChange _ paidTwiceScript (fun last =>
    recordedFailure last.here.memory (rewardsTransaction 0 5000) = true) _ (by decide +kernel)
  exact ⟨last, found, (recorded_results_are_true start_initial run).1⟩

end Axe.Hardened

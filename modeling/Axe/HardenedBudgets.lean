import Axe.HardenedHistory

namespace Axe.Hardened

/-!
# Fee budgets are kept

A new transaction is signed only if what the journal can cost its sender stays
within the plan.  The journal can therefore never cost more, after any run, and
neither can what the chain charges for one transaction per nonce or sequence
number.
-/

section Liability

variable {plan : Plan} {journal : Journal} {sender : Address}

theorem liability_eq_some {candidate : Option (U64 × Nat)} {spent : Nat} :
    liability journal sender candidate = some spent ↔
      SlotMaxima.committed (evmOffers journal sender ++ candidate.toList) = spent ∧
        spent < 2 ^ 256 :=
  SlotMaxima.checkedSum_maxima (by decide)

theorem feeLiability_eq_ok {sender : String} {candidate : Option (Nat × Nat)} {spent : Nat} :
    feeLiability journal sender candidate = .ok spent ↔
      journal.recorded.all (feeReadable sender) = true ∧
        SlotMaxima.committed (cosmosOffers journal sender ++ candidate.toList) = spent ∧
        spent < 2 ^ 128 := by
  unfold feeLiability
  rw [← SlotMaxima.checkedSum_maxima (by decide)]
  by_cases readable : journal.recorded.all (feeReadable sender) = true
  · rw [if_pos readable]
    split
    · rename_i overflows
      simp only [overflows, reduceCtorEq, and_false]
    · rename_i total sums
      simp only [sums, readable, true_and, Except.ok.injEq, Option.some.injEq]
  · rw [if_neg readable]
    simp [readable]

theorem checkBudget_new {cost : Nat}
    (checked : checkBudget plan journal sender cost none = .ok ()) :
    SlotMaxima.committed (evmOffers journal sender) + cost < 2 ^ 256 ∧
      SlotMaxima.committed (evmOffers journal sender) + cost ≤ plan.evmGasBudget := by
  simp only [checkBudget, candidateNonce, Option.bind_none, Option.map_none] at checked
  split at checked
  · cases checked
  · rename_i spent spends
    obtain ⟨committed, _⟩ := liability_eq_some.mp spends
    simp only [Option.toList_none, List.append_nil] at committed
    rw [committed]
    simp only [Option.isSome_none, Bool.false_eq_true, if_false] at checked
    split at checked
    · cases checked
    · rename_i total totals
      split at totals
      · rename_i fits
        cases totals
        split at checked
        · rename_i within
          exact ⟨fits, within⟩
        · cases checked
      · cases totals

theorem checkBudget_replacing {cost : Nat} {key : ActionKey} {old : EvmTransaction}
    (current : journal.get key = some (.evm old))
    (checked : checkBudget plan journal sender cost (some key) = .ok ()) :
    SlotMaxima.committed (evmOffers journal sender ++ [(old.nonce, cost)]) < 2 ^ 256 ∧
      SlotMaxima.committed (evmOffers journal sender ++ [(old.nonce, cost)]) ≤
        plan.evmGasBudget := by
  have nonce : candidateNonce journal (some key) = some old.nonce := by
    simp [candidateNonce, current]
  simp only [checkBudget, nonce, Option.map_some, Option.isSome_some, if_true] at checked
  split at checked
  · cases checked
  · rename_i spent spends
    obtain ⟨committed, low⟩ := liability_eq_some.mp spends
    simp only [Option.toList_some] at committed
    rw [committed]
    split at checked
    · rename_i within
      exact ⟨low, within⟩
    · cases checked

theorem checkFeeBudget_ok {sender : String} {sequence fee : Nat}
    (checked : checkFeeBudget plan journal sender sequence fee = .ok ()) :
    SlotMaxima.committed (cosmosOffers journal sender ++ [(sequence, fee)]) < 2 ^ 128 ∧
      SlotMaxima.committed (cosmosOffers journal sender ++ [(sequence, fee)]) ≤
        plan.cosmosFeeBudget := by
  unfold checkFeeBudget at checked
  split at checked
  · cases checked
  · rename_i total totals
    obtain ⟨_, committed, low⟩ := feeLiability_eq_ok.mp totals
    simp only [Option.toList_some] at committed
    rw [committed]
    split at checked
    · rename_i within
      exact ⟨low, within⟩
    · cases checked

theorem checkFeeBudget_fits {sender : String} {sequence fee : Nat}
    (checked : checkFeeBudget plan journal sender sequence fee = .ok ()) :
    fee < 2 ^ 128 := by
  have paid : ([(sequence, fee)].map Prod.snd).sum ≤
        SlotMaxima.committed (cosmosOffers journal sender ++ [(sequence, fee)]) := by
    have once : ([(sequence, fee)].map Prod.fst).Nodup := List.nodup_singleton _
    refine SlotMaxima.sum_payments_le once fun charge listed => ?_
    rw [List.mem_singleton] at listed
    subst listed
    exact ⟨fee, by simp, Nat.le_refl fee⟩
  have room := (checkFeeBudget_ok checked).1
  simp only [List.map_cons, List.map_nil, List.sum_cons, List.sum_nil, Nat.add_zero] at paid
  exact Nat.lt_of_le_of_lt paid room

end Liability

/-- What the attempts of each sender can cost at most is within the budgets of the plan. -/
structure WithinBudget (plan : Plan) (journal : Journal) : Prop where
  evm : ∀ sender, SlotMaxima.committed (evmOffers journal sender) < 2 ^ 256 ∧
        SlotMaxima.committed (evmOffers journal sender) ≤ plan.evmGasBudget
  cosmos : ∀ sender, SlotMaxima.committed (cosmosOffers journal sender) < 2 ^ 128 ∧
        SlotMaxima.committed (cosmosOffers journal sender) ≤ plan.cosmosFeeBudget
  readable : ∀ tx, .cosmos tx ∈ journal.recorded → tx.feeValue.isSome = true

section Invariant

variable {lib : Platform} {honest : Prop} {plan : Plan} {journal later : Journal}

theorem WithinBudget.addEvm {tx : EvmTransaction} (within : WithinBudget plan journal)
    (grown : ∀ transaction, transaction ∈ later.recorded ↔
        transaction ∈ journal.recorded ∨ transaction = .evm tx)
    (room : SlotMaxima.committed
            (evmOffers journal tx.sender ++ [(tx.nonce, tx.gasCost)]) < 2 ^ 256 ∧
        SlotMaxima.committed
            (evmOffers journal tx.sender ++ [(tx.nonce, tx.gasCost)]) ≤
          plan.evmGasBudget) :
    WithinBudget plan later := by
  constructor
  · intro sender
    rw [evmOffers, SlotMaxima.committed_filterMap_added grown]
    by_cases same : tx.sender = sender
    · subst same
      simpa [evmOffer, evmOffers] using room
    · simpa [evmOffer, same, evmOffers] using within.evm sender
  · intro sender
    rw [cosmosOffers, SlotMaxima.committed_filterMap_added grown]
    simpa [cosmosOffer, cosmosOffers] using within.cosmos sender
  · intro other listed
    rcases (grown _).mp listed with before | new
    · exact within.readable other before
    · cases new

theorem WithinBudget.addCosmos {tx : CosmosTransaction} (within : WithinBudget plan journal)
    (grown : ∀ transaction, transaction ∈ later.recorded ↔
        transaction ∈ journal.recorded ∨ transaction = .cosmos tx)
    (fee : ∃ amount, tx.fee = decimalText amount ∧
        checkFeeBudget plan journal tx.sender tx.sequence amount = .ok ()) :
    WithinBudget plan later := by
  obtain ⟨amount, written, checked⟩ := fee
  have value : tx.feeValue = some amount :=
    feeValue_of_decimalText written (checkFeeBudget_fits checked)
  have paid : tx.feePaid = amount := by simp [CosmosTransaction.feePaid, value]
  constructor
  · intro sender
    rw [evmOffers, SlotMaxima.committed_filterMap_added grown]
    simpa [evmOffer, evmOffers] using within.evm sender
  · intro sender
    rw [cosmosOffers, SlotMaxima.committed_filterMap_added grown]
    by_cases same : tx.sender = sender
    · subst same
      simpa [cosmosOffer, cosmosOffers, paid] using checkFeeBudget_ok checked
    · simpa [cosmosOffer, same, cosmosOffers] using within.cosmos sender
  · intro other listed
    rcases (grown _).mp listed with before | new
    · exact within.readable other before
    · cases new
      simp [value]

theorem budget_invariant (permit : Journal → Journal → Prop) :
    JournalInvariant lib honest plan permit fun journal _ _ => WithinBudget plan journal where
  empty := by
    intro fingerprint _ _
    constructor <;> intro sender <;>
      simp [evmOffers, cosmosOffers, Journal.recorded, Journal.empty,
        SlotMaxima.committed, SlotMaxima.slots]
  evolve := fun _ before => before
  move := by
    intro records journal later world move _ before
    rcases move.recorded_cases with same | ⟨key, added, checks, grown⟩
    · constructor
      · intro sender
        rw [evmOffers, SlotMaxima.committed_filterMap_congr same]
        exact before.evm sender
      · intro sender
        rw [cosmosOffers, SlotMaxima.committed_filterMap_congr same]
        exact before.cosmos sender
      · intro tx listed
        exact before.readable tx ((same _).mp listed)
    · cases checks with
      | @recordEvm tx checked =>
        obtain ⟨fits, within⟩ := checkBudget_new checked.budget
        have grows := SlotMaxima.committed_append_le (evmOffers journal tx.sender)
            tx.nonce tx.gasCost
        exact before.addEvm grown ⟨grows.trans_lt fits, grows.trans within⟩
      | replaceEvm old checked =>
        refine before.addEvm grown ?_
        rw [checked.sender, checked.nonce]
        exact checkBudget_replacing checked.current checked.budget
      | recordCosmos checked => exact before.addCosmos grown checked.fee
      | replaceCosmos old checked =>
        obtain ⟨amount, written, _, budget⟩ := checked.fee
        refine before.addCosmos grown ⟨amount.toNat, written, ?_⟩
        rw [checked.sender, checked.sequence]
        exact budget

/-- A charge per nonce or sequence number, within some recorded transaction. -/
structure Charged {Slot : Type} (offer : Transaction → Option (Slot × Nat)) (journal : Journal)
    (charges : List (Slot × Nat)) : Prop where
  once : (charges.map Prod.fst).Nodup
  within : ∀ charge ∈ charges, ∃ transaction ∈ journal.recorded, ∃ cost,
      offer transaction = some (charge.1, cost) ∧ charge.2 ≤ cost

theorem Charged.sum_le {Slot : Type} [DecidableEq Slot] {offer : Transaction → Option (Slot × Nat)}
    {charges : List (Slot × Nat)} (charged : Charged offer journal charges) :
    (charges.map Prod.snd).sum ≤ SlotMaxima.committed (journal.recorded.filterMap offer) := by
  refine SlotMaxima.sum_payments_le charged.once fun charge listed => ?_
  obtain ⟨transaction, recorded, cost, offered, below⟩ := charged.within charge listed
  exact ⟨cost, List.mem_filterMap.mpr ⟨transaction, recorded, offered⟩, below⟩

theorem WithinBudget.feeLiability_eq (within : WithinBudget plan journal) (sender : String) :
    feeLiability journal sender none =
      .ok (SlotMaxima.committed (cosmosOffers journal sender)) := by
  refine feeLiability_eq_ok.mpr ⟨?_, by simp, (within.cosmos sender).1⟩
  rw [List.all_eq_true]
  intro transaction listed
  cases transaction with
  | evm tx => rfl
  | cosmos tx => simp [feeReadable, within.readable tx listed]

theorem WithinBudget.reserved (within : WithinBudget plan journal) (holder : BudgetHolder) :
    reservedBudget journal holder = .error "Uint conversion error" ∨
      ∃ reserved, reservedBudget journal holder = .ok reserved ∧
        reserved ≤ approvedBudget plan holder := by
  cases holder with
  | evm sender =>
    obtain ⟨low, below⟩ := within.evm sender
    have spends : liability journal sender none =
          some (SlotMaxima.committed (evmOffers journal sender)) :=
      liability_eq_some.mpr ⟨by simp, low⟩
    simp only [reservedBudget, spends]
    split
    · exact .inr ⟨_, rfl, below⟩
    · exact .inl rfl
  | cosmos sender => exact .inr ⟨_, within.feeLiability_eq sender, (within.cosmos sender).2⟩

theorem WithinBudget.remaining (disk : Option Journal)
    (within : ∀ file, disk = some file → WithinBudget plan file) (holder : BudgetHolder) :
    remainingBudget plan disk holder ≠ .error "journal exceeds approved fee budget" := by
  unfold remainingBudget
  split
  · simp
  · cases disk with
    | none => simp
    | some file =>
      rcases (within file rfl).reserved holder with failed | ⟨reserved, found, below⟩
      · simp [failed]
      · simp [found, below]

/--
After every run with a fixed plan, what the journal can cost an EVM signer is at
most the gas budget, and what it can cost a Cosmos signer is at most the fee
budget.  Hence the preflight check never finds an exceeded budget.  If the chain
charges one transaction per nonce or sequence number, and at most what was
recorded for it, all charges together are at most the liability.
-/
theorem fee_budgets_are_kept
    {first last : DeployConfig lib}
    (initial : first.Initial)
    (run : DeployRuns lib honest plan anyChange first last) :
    (∀ journal, journal = last.here.memory ∨ last.here.disk = some journal → (∀ sender, ∃ spent,
        liability journal sender none = some spent ∧ spent ≤ plan.evmGasBudget ∧
          ∀ charges, Charged (evmOffer sender) journal charges →
            (charges.map Prod.snd).sum ≤ spent) ∧
      ∀ sender, ∃ spent, feeLiability journal sender none = .ok spent ∧
          spent ≤ plan.cosmosFeeBudget ∧
          ∀ charges, Charged (cosmosOffer sender) journal charges →
            (charges.map Prod.snd).sum ≤ spent) ∧
      ∀ holder, remainingBudget plan last.here.disk holder ≠
          .error "journal exceeds approved fee budget" := by
  obtain ⟨within, _⟩ := (budget_invariant anyChange).reached run initial
  refine ⟨fun journal held => ?_, WithinBudget.remaining _ within.2⟩
  have bound : WithinBudget plan journal := by
    rcases held with rfl | onDisk
    · exact within.1
    · exact within.2 journal onDisk
  constructor
  · intro sender
    obtain ⟨low, below⟩ := bound.evm sender
    exact ⟨_, liability_eq_some.mpr ⟨by simp, low⟩, below, fun _ charged => charged.sum_le⟩
  · intro sender
    exact ⟨_, bound.feeLiability_eq sender, (bound.cosmos sender).2,
      fun _ charged => charged.sum_le⟩

end Invariant

open Sample in
/-- The result at a run with a fee replacement and a retry of one account. -/
theorem fee_budgets_are_kept_when_paid_twice : ∃ last : DeployConfig Sample.platform,
      DeployRuns Sample.platform True Sample.plan anyChange start last ∧
      feeLiability last.here.memory "m" none = .ok 8000 ∧
      ∃ spent, feeLiability last.here.memory "m" none = .ok spent ∧
          spent ≤ Sample.plan.cosmosFeeBudget ∧
          ∀ charges, Charged (cosmosOffer "m") last.here.memory charges →
            (charges.map Prod.snd).sum ≤ spent := by
  obtain ⟨last, run, found⟩ := @replay_run anyChange _ paidTwiceScript
      (fun last => feeLiability last.here.memory "m" none = .ok 8000) _
      (by decide +kernel)
  exact ⟨last, run, found, ((fee_budgets_are_kept start_initial run).1 _ (.inl rfl)).2 "m"⟩

end Axe.Hardened

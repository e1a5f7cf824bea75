import Axe.HardenedService

namespace Axe.Hardened

/-!
# Invariants of the journal

An invariant of the journal holds of the empty journal and is kept by every
change of the journal and by every step of the chains.  It then holds of the
journal in memory and of the journal file after every run, however often the
process stopped in between.

What a change does to the attempts of one action is said once, in `KeyMove`.
-/

section Ledgers

variable {lib : Platform} {honest : Prop} {plan : Plan} {world : Chains lib}
variable {records : ActionKey → Transaction → Prop} {journal later : Journal}

/-- What a change of the journal does to the attempts of one action. -/
inductive KeyMove (lib : Platform) (honest : Prop) (plan : Plan) (world : Chains lib)
    (records : ActionKey → Transaction → Prop) (journal : Journal) (key : ActionKey)
    (ledger : Ledger Transaction) : Prop where
  | keep
      (same : ledger = journal.ledger key)
  | recordEvm
      (tx : EvmTransaction)
      (checked : RecordsEvm lib plan journal key tx)
      (permitted : records key (.evm tx))
      (grown : ledger = ⟨journal.past key, some (.evm tx)⟩)
  | recordCosmos
      (tx : CosmosTransaction)
      (checked : RecordsCosmos lib plan journal key tx)
      (permitted : records key (.cosmos tx))
      (grown : ledger = ⟨journal.past key, some (.cosmos tx)⟩)
  | replaceEvm
      (old tx : EvmTransaction)
      (checked : ReplacesEvm lib plan journal key old tx)
      (grown : ledger = ⟨journal.past key ++ [.evm old], some (.evm tx)⟩)
  | replaceCosmos
      (old tx : CosmosTransaction)
      (checked : ReplacesCosmos lib plan journal key old tx)
      (grown : ledger = ⟨journal.past key ++ [.cosmos old], some (.cosmos tx)⟩)
  | retireEvm
      (old : EvmTransaction)
      (current : journal.get key = some (.evm old))
      (unpinned : key.step ≠ .axelarGateway)
      (failed : honest → world.evm.FailedFinally old.sender old.nonce)
      (grown : ledger = ⟨journal.past key ++ [.evm old], none⟩)
  | retireCosmos
      (old : CosmosTransaction)
      (current : journal.get key = some (.cosmos old))
      (unpinned : key.step ≠ .axelarGateway)
      (failed : SomeFailed journal key old)
      (grown : ledger = ⟨journal.past key ++ [.cosmos old], none⟩)

variable {key other : ActionKey} {transaction : Transaction}

private theorem ledger_record_ne (different : other ≠ key) :
    (journal.record key transaction).ledger other = journal.ledger other := by
  simp [Journal.ledger, journal.get_record_ne key other transaction different]

variable {previous : Transaction}

private theorem ledger_replace_ne {replacement : Transaction} (different : other ≠ key) :
    (journal.replace key previous replacement).ledger other = journal.ledger other := by
  simp [Journal.ledger, Journal.replace, journal.get_record_ne key other replacement different,
    (journal.record key replacement).past_pushAttempt_ne key other previous different]

private theorem ledger_retire_ne {gasLimit : Option U64} (different : other ≠ key) :
    (journal.retire key previous gasLimit).ledger other = journal.ledger other := by
  simp [Journal.ledger, journal.get_retire_ne key other previous gasLimit different,
    journal.past_retire_ne key other previous gasLimit different]

theorem JournalMove.touched (move : JournalMove lib honest plan world records journal later) :
    ∃ key, (∀ other, other ≠ key → later.ledger other = journal.ledger other) ∧
        KeyMove lib honest plan world records journal key (later.ledger key) := by
  cases move with
  | recordEvm key tx checked permitted =>
    exact ⟨key, fun _ => ledger_record_ne,
      .recordEvm tx checked permitted (by simp [Journal.ledger])⟩
  | recordCosmos key tx checked permitted =>
    exact ⟨key, fun _ => ledger_record_ne,
      .recordCosmos tx checked permitted (by simp [Journal.ledger])⟩
  | replaceEvm key old tx checked =>
    exact ⟨key, fun _ => ledger_replace_ne, .replaceEvm old tx checked (by simp [Journal.ledger])⟩
  | replaceCosmos key old tx checked =>
    exact ⟨key, fun _ => ledger_replace_ne,
      .replaceCosmos old tx checked (by simp [Journal.ledger])⟩
  | retireEvm key old gasLimit current unpinned failed =>
    exact ⟨key, fun _ => ledger_retire_ne,
      .retireEvm old current unpinned failed (by simp [Journal.ledger])⟩
  | retireCosmos key old gasLimit current unpinned failed =>
    exact ⟨key, fun _ => ledger_retire_ne,
      .retireCosmos old current unpinned failed (by simp [Journal.ledger])⟩
  | other later same =>
    have unchanged : ∀ key, later.ledger key = journal.ledger key := by
      intro key
      simp [Journal.ledger, Journal.get, Journal.past, same.actions, same.attempts]
    exact ⟨gatewayProxyKey, fun other _ => unchanged other, .keep (unchanged _)⟩
  | _ => exact ⟨gatewayProxyKey, fun _ _ => rfl, .keep rfl⟩

theorem JournalMove.atKey (move : JournalMove lib honest plan world records journal later)
    (key : ActionKey) :
    KeyMove lib honest plan world records journal key (later.ledger key) := by
  obtain ⟨touched, others, change⟩ := move.touched
  by_cases same : key = touched
  · exact same ▸ change
  · exact .keep (others key same)

variable {ledger : Ledger Transaction}

theorem KeyMove.ledgerMove (move : KeyMove lib honest plan world records journal key ledger) :
    Ledger.Move (journal.ledger key) ledger := by
  have shape : journal.ledger key = ⟨journal.past key, journal.get key⟩ := rfl
  cases move with
  | keep same => exact same ▸ .keep
  | recordEvm tx checked _ grown =>
    rw [shape, checked.fresh, grown]
    exact .record _
  | recordCosmos tx checked _ grown =>
    rw [shape, checked.fresh, grown]
    exact .record _
  | replaceEvm old tx checked grown =>
    rw [shape, checked.current, grown]
    exact .replace _
  | replaceCosmos old tx checked grown =>
    rw [shape, checked.current, grown]
    exact .replace _
  | retireEvm old current _ _ grown =>
    rw [shape, current, grown]
    exact .retire
  | retireCosmos old current _ _ grown =>
    rw [shape, current, grown]
    exact .retire

/-- What was checked before a transaction became the current one of an action. -/
inductive Added (lib : Platform) (plan : Plan) (journal : Journal)
    (key : ActionKey) : Transaction → Prop where
  | recordEvm
      {tx : EvmTransaction}
      (checked : RecordsEvm lib plan journal key tx) :
      Added lib plan journal key (.evm tx)
  | recordCosmos
      {tx : CosmosTransaction}
      (checked : RecordsCosmos lib plan journal key tx) :
      Added lib plan journal key (.cosmos tx)
  | replaceEvm
      {tx : EvmTransaction}
      (old : EvmTransaction)
      (checked : ReplacesEvm lib plan journal key old tx) :
      Added lib plan journal key (.evm tx)
  | replaceCosmos
      {tx : CosmosTransaction}
      (old : CosmosTransaction)
      (checked : ReplacesCosmos lib plan journal key old tx) :
      Added lib plan journal key (.cosmos tx)

theorem KeyMove.history_cases (move : KeyMove lib honest plan world records journal key ledger) :
    ledger.history = journal.history key ∨ ∃ transaction, Added lib plan journal key transaction ∧
        ledger.current = some transaction ∧
        ledger.history = journal.history key ++ [transaction] := by
  have shape : journal.history key = journal.past key ++ (journal.get key).toList := rfl
  rw [shape]
  cases move with
  | keep same => exact .inl (same ▸ rfl)
  | recordEvm tx checked _ grown =>
    refine .inr ⟨.evm tx, .recordEvm checked, by rw [grown], ?_⟩
    simp [grown, Ledger.history, checked.fresh]
  | recordCosmos tx checked _ grown =>
    refine .inr ⟨.cosmos tx, .recordCosmos checked, by rw [grown], ?_⟩
    simp [grown, Ledger.history, checked.fresh]
  | replaceEvm old tx checked grown =>
    refine .inr ⟨.evm tx, .replaceEvm old checked, by rw [grown], ?_⟩
    simp [grown, Ledger.history, checked.current]
  | replaceCosmos old tx checked grown =>
    refine .inr ⟨.cosmos tx, .replaceCosmos old checked, by rw [grown], ?_⟩
    simp [grown, Ledger.history, checked.current]
  | retireEvm old current _ _ grown => exact .inl (by simp [grown, Ledger.history, current])
  | retireCosmos old current _ _ grown => exact .inl (by simp [grown, Ledger.history, current])

/-- The sender with its nonce or sequence number. -/
def Transaction.slot : Transaction → (Address × U64) ⊕ (String × Nat)
  | .evm tx => .inl (tx.sender, tx.nonce)
  | .cosmos tx => .inr (tx.sender, tx.sequence)

theorem KeyMove.same_slot (move : KeyMove lib honest plan world records journal key ledger)
    {old new : Transaction} (before : journal.get key = some old)
    (after : ledger.current = some new) :
    new.slot = old.slot := by
  cases move with
  | keep same =>
    rw [same] at after
    rw [Option.some.inj (after.symm.trans before)]
  | recordEvm tx checked _ _ =>
    rw [checked.fresh] at before
    cases before
  | recordCosmos tx checked _ _ =>
    rw [checked.fresh] at before
    cases before
  | replaceEvm replaced tx checked grown =>
    rw [grown] at after
    cases after
    cases checked.current.symm.trans before
    simp [Transaction.slot, checked.sender, checked.nonce]
  | replaceCosmos replaced tx checked grown =>
    rw [grown] at after
    cases after
    cases checked.current.symm.trans before
    simp [Transaction.slot, checked.sender, checked.sequence]
  | retireEvm _ _ _ _ grown =>
    rw [grown] at after
    cases after
  | retireCosmos _ _ _ _ grown =>
    rw [grown] at after
    cases after

theorem mem_recorded :
    transaction ∈ journal.recorded ↔ ∃ key, transaction ∈ journal.history key := by
  unfold Journal.recorded Journal.history Journal.ledger Ledger.history
  constructor
  · intro member
    rcases List.mem_append.mp member with current | past
    · obtain ⟨⟨key, value⟩, listed, rfl⟩ := List.mem_map.mp current
      refine ⟨key, List.mem_append_right _ ?_⟩
      have found : journal.get key = some value := AList.mem_lookup_iff.mpr listed
      simp [found]
    · obtain ⟨attempts, listed, inside⟩ := List.mem_flatten.mp past
      obtain ⟨⟨key, value⟩, entry, rfl⟩ := List.mem_map.mp listed
      refine ⟨key, List.mem_append_left _ ?_⟩
      have found : journal.attempts.lookup key = some value := AList.mem_lookup_iff.mpr entry
      simpa [Journal.past, found] using inside
  · rintro ⟨key, member⟩
    rcases List.mem_append.mp member with past | current
    · refine List.mem_append_right _ (List.mem_flatten.mpr ?_)
      cases found : journal.attempts.lookup key with
      | none => simp [Journal.past, found] at past
      | some attempts =>
        refine ⟨attempts, ?_, by simpa [Journal.past, found] using past⟩
        exact List.mem_map.mpr ⟨⟨key, attempts⟩, AList.mem_lookup_iff.mp found, rfl⟩
    · refine List.mem_append_left _ (List.mem_map.mpr ⟨⟨key, transaction⟩, ?_, rfl⟩)
      have found : journal.get key = some transaction := by simpa using current
      exact AList.mem_lookup_iff.mp found

theorem JournalMove.recorded_cases
    (move : JournalMove lib honest plan world records journal later) :
    (∀ transaction, transaction ∈ later.recorded ↔ transaction ∈ journal.recorded) ∨
      ∃ key added, Added lib plan journal key added ∧ ∀ transaction, transaction ∈ later.recorded ↔
          transaction ∈ journal.recorded ∨ transaction = added := by
  obtain ⟨key, others, change⟩ := move.touched
  have elsewhere : ∀ other, other ≠ key → later.history other = journal.history other :=
    fun other different => congrArg Ledger.history (others other different)
  rcases change.history_cases with same | ⟨added, checks, _, grown⟩
  · refine .inl fun transaction => ?_
    have unchanged : ∀ other, later.history other = journal.history other := by
      intro other
      by_cases isKey : other = key
      · exact isKey ▸ same
      · exact elsewhere other isKey
    simp only [mem_recorded, unchanged]
  · refine .inr ⟨key, added, checks, fun transaction => ?_⟩
    have atKey : later.history key = journal.history key ++ [added] := grown
    simp only [mem_recorded]
    constructor
    · rintro ⟨other, member⟩
      by_cases isKey : other = key
      · rw [isKey, atKey] at member
        rcases List.mem_append.mp member with old | new
        · exact .inl ⟨key, old⟩
        · exact .inr (by simpa using new)
      · exact .inl ⟨other, elsewhere other isKey ▸ member⟩
    · rintro (⟨other, member⟩ | isAdded)
      · by_cases isKey : other = key
        · refine ⟨key, atKey ▸ List.mem_append_left _ (isKey ▸ member)⟩
        · exact ⟨other, (elsewhere other isKey).symm ▸ member⟩
      · exact ⟨key, by simp [atKey, isAdded]⟩

end Ledgers

section Files

/-- All attempts of an action in the file. -/
def Station.fileHistory (here : Station) (key : ActionKey) : List Transaction :=
  (here.disk.map fun file => file.history key).getD []

theorem mem_fileHistory {here : Station} {key : ActionKey} {transaction : Transaction}
    (member : transaction ∈ here.fileHistory key) :
    ∃ file, here.disk = some file ∧ transaction ∈ file.history key := by
  unfold Station.fileHistory at member
  cases onDisk : here.disk with
  | none => simp [onDisk] at member
  | some file => exact ⟨file, rfl, by simpa [onDisk] using member⟩

variable {lib : Platform} {honest : Prop} {plan : Plan} {policy : Policy}
variable {here here' : Station} {world world' : Chains lib}

variable (transition : Transition lib honest plan policy here world here' world')

include transition

theorem Transition.memory_cases :
    here'.memory = here.memory ∨ (here.memory = Journal.empty [] ∧ (here.disk = some here'.memory ∨
          ∃ fingerprint, here'.memory = Journal.empty fingerprint)) ∨
      here.Synced ∧ JournalMove lib honest plan world (policy.records here)
          here.memory here'.memory := by
  cases transition with
  | load journal outcome closed opened =>
    refine .inr (.inl ⟨closed, ?_⟩)
    rcases opened with onDisk | ⟨_, fresh⟩
    · exact .inl onDisk
    · exact .inr fresh
  | commit journal outcome synced move => exact .inr (.inr ⟨synced, move⟩)
  | _ => exact .inl rfl

theorem Transition.disk_cases : here'.disk = here.disk ∨
      (here.disk = none ∧ ∃ fingerprint, here'.disk = some (Journal.empty fingerprint)) ∨
      (here.Synced ∧ here'.disk = some here'.memory ∧
        JournalMove lib honest plan world (policy.records here)
          here.memory here'.memory) := by
  cases transition with
  | load journal outcome closed opened =>
    cases reached : outcome.reached with
    | false => exact .inl (by simp [Station.written, reached])
    | true =>
      rcases opened with onDisk | ⟨absent, fingerprint, fresh⟩
      · exact .inl (by simp [Station.written, reached, onDisk])
      · exact .inr (.inl ⟨absent, fingerprint, by
          simp [Station.written, reached, fresh]⟩)
  | commit journal outcome synced move =>
    cases reached : outcome.reached with
    | false => exact .inl (by simp [Station.written, reached])
    | true => exact .inr (.inr ⟨synced, by simp [Station.written, reached], move⟩)
  | _ => exact .inl rfl

theorem Transition.chains : world'.evm = world.evm ∧ world'.cosmos = world.cosmos := by
  cases transition <;> exact ⟨rfl, rfl⟩

omit transition

end Files

section Invariants

variable {lib : Platform} {honest : Prop} {plan : Plan}

/-- A property that every change of a journal keeps. -/
structure JournalInvariant (lib : Platform) (honest : Prop) (plan : Plan)
    (permit : Journal → Journal → Prop)
    (holds : Journal → EvmChain lib → CosmosChain lib → Prop) : Prop where
  empty : ∀ fingerprint evm cosmos, holds (Journal.empty fingerprint) evm cosmos
  evolve : ∀ {journal} {world later : Chains lib}, world.Evolve later →
      holds journal world.evm world.cosmos → holds journal later.evm later.cosmos
  move : ∀ {records journal later} {world : Chains lib},
      JournalMove lib honest plan world records journal later → permit journal later →
        holds journal world.evm world.cosmos → holds later world.evm world.cosmos

/-- The journal in memory and the one in the file have the property. -/
def Everywhere
    (holds : Journal → EvmChain lib → CosmosChain lib → Prop)
    (here : Station)
    (world : Chains lib) : Prop :=
  holds here.memory world.evm world.cosmos ∧
    ∀ file, here.disk = some file → holds file world.evm world.cosmos

variable {permit : Journal → Journal → Prop}
variable {holds : Journal → EvmChain lib → CosmosChain lib → Prop}

theorem JournalInvariant.extend {extra : Journal → EvmChain lib → CosmosChain lib → Prop}
    (base : JournalInvariant lib honest plan permit holds)
    (empty : ∀ fingerprint evm cosmos, extra (Journal.empty fingerprint) evm cosmos)
    (evolve : ∀ {journal} {world later : Chains lib}, world.Evolve later →
        extra journal world.evm world.cosmos → extra journal later.evm later.cosmos)
    (move : ∀ {records journal later} {world : Chains lib},
        JournalMove lib honest plan world records journal later → permit journal later →
          holds journal world.evm world.cosmos →
          extra journal world.evm world.cosmos → extra later world.evm world.cosmos) :
    JournalInvariant lib honest plan permit fun journal evm cosmos =>
      holds journal evm cosmos ∧ extra journal evm cosmos where
  empty fingerprint evm cosmos := ⟨base.empty fingerprint evm cosmos, empty fingerprint evm cosmos⟩
  evolve evolved before := ⟨base.evolve evolved before.1, evolve evolved before.2⟩
  move change permitted before :=
    ⟨base.move change permitted before.1, move change permitted before.1 before.2⟩

theorem JournalInvariant.transition (invariant : JournalInvariant lib honest plan permit holds)
    {policy : Policy} {here here' : Station} {world world' : Chains lib}
    (transition : Transition lib honest plan policy here world here' world')
    (permitted : permit here.memory here'.memory) (before : Everywhere holds here world) :
    Everywhere holds here' world' := by
  obtain ⟨sameEvm, sameCosmos⟩ := transition.chains
  unfold Everywhere
  rw [sameEvm, sameCosmos]
  constructor
  · rcases transition.memory_cases with
      same | ⟨_, opened | ⟨fingerprint, fresh⟩⟩ | ⟨_, move⟩
    · exact same ▸ before.1
    · exact before.2 _ opened
    · exact fresh ▸ invariant.empty fingerprint _ _
    · exact invariant.move move permitted before.1
  · intro file onDisk
    rcases transition.disk_cases with
      same | ⟨_, fingerprint, fresh⟩ | ⟨_, written, move⟩
    · exact before.2 file (same ▸ onDisk)
    · cases onDisk.symm.trans fresh
      exact invariant.empty fingerprint _ _
    · cases onDisk.symm.trans written
      exact invariant.move move permitted before.1

/-- A run in which every call changes the journal as permitted. -/
abbrev DeployRuns (lib : Platform) (honest : Prop) (plan : Plan)
    (permit : Journal → Journal → Prop) :
    DeployConfig lib → DeployConfig lib → Prop :=
  (deployService lib honest plan).Runs
    fun here _ here' _ => permit here.memory here'.memory

/-- Every change of the journal is permitted. -/
def anyChange : Journal → Journal → Prop := fun _ _ => True

instance (journal later : Journal) : Decidable (anyChange journal later) := .isTrue trivial

abbrev DeployConfig.Lawful (honest : Prop) (plan : Plan) (config : DeployConfig lib) : Prop :=
  (deployService lib honest plan).Obedient
    (Transition lib honest plan anyRecord) config

/--
The rule for whole runs.  It covers invariants of all that the process and the
world have; receipts may be taken to be sound.
-/
theorem DeployRuns.invariant
    {holds : Station → Chains lib → Prop}
    (transition : ∀ {here world here' world'},
      Transition lib honest plan anyRecord here world here' world' →
      permit here.memory here'.memory →
      holds here world → holds here' world')
    (evolve : ∀ {here} {world later : Chains lib},
      world.Evolve later → holds here world → holds here later)
    (boot : ∀ {here world} options context,
      holds here world → holds (here.boot options context) world)
    {first last : DeployConfig lib}
    (run : DeployRuns lib honest plan permit first last)
    (initial : first.Initial)
    (start : holds first.here first.world) :
    holds last.here last.world ∧ last.Lawful honest plan := by
  let both : Station → Chains lib → Prop :=
    fun here world => (honest → here.Sound lib) ∧ holds here world
  have reached : both last.here last.world ∧ last.Lawful honest plan := by
    refine Service.Runs.invariant ?_ ?_ run initial.idle ⟨?_, start⟩
    · intro here world here' world' change permitted before
      cases change with
      | environment evolved => exact ⟨before.1, evolve evolved before.2⟩
      | boot launch => exact ⟨fun trusted => (before.1 trusted).boot _ _, boot _ _ before.2⟩
      | perform kept =>
        exact ⟨fun trusted => kept.sound trusted (before.1 trusted),
          transition kept permitted before.2⟩
      | stop => exact before
    · intro here world before launch
      exact keeps_launchProgram launch rfl fun trusted => (before.1 trusted).boot _ _
    · intro _
      obtain ⟨saved, context, fresh⟩ := initial.here
      rw [fresh]
      exact ⟨empty_sound [], fun _ absent => by cases absent⟩
  exact ⟨reached.1.2, reached.2⟩

theorem JournalInvariant.reached (invariant : JournalInvariant lib honest plan permit holds)
    {first last : DeployConfig lib} (run : DeployRuns lib honest plan permit first last)
    (initial : first.Initial) :
    Everywhere holds last.here last.world ∧ last.Lawful honest plan := by
  refine DeployRuns.invariant invariant.transition ?_ ?_ run initial ?_
  · intro here world later evolved before
    exact ⟨invariant.evolve evolved before.1,
      fun file onDisk => invariant.evolve evolved (before.2 file onDisk)⟩
  · intro here world options context before
    exact ⟨invariant.empty _ _ _, before.2⟩
  · obtain ⟨saved, context, fresh⟩ := initial.here
    rw [fresh]
    exact ⟨invariant.empty _ _ _, fun _ absent => by cases absent⟩

/-- The recorded bytes are a signed transaction with the recorded data. -/
def Transaction.Made (lib : Platform) : Transaction → Prop
  | .evm tx => ∃ envelope, EvmMade lib tx envelope
  | .cosmos tx => CosmosMade lib tx

theorem ReplacesCosmos.made {journal : Journal} {key : ActionKey} {old tx : CosmosTransaction}
    (checked : ReplacesCosmos lib plan journal key old tx) (made : CosmosMade lib old) :
    CosmosMade lib tx := by
  obtain ⟨chainId, denom, messages, intent, body⟩ := made.content
  refine ⟨checked.hash, checked.slot, chainId, denom, messages, ?_, ?_⟩
  · rw [checked.intent, intent, checked.sender]
  · rw [checked.body, body]

theorem made_invariant : JournalInvariant lib honest plan permit fun journal _ _ =>
      ∀ key, ∀ transaction ∈ journal.history key, transaction.Made lib where
  empty := by
    intro fingerprint _ _ key transaction member
    simp [Journal.history, Journal.ledger, Ledger.history] at member
  evolve := fun _ before => before
  move := by
    intro records journal later world move _ before key transaction member
    rcases (move.atKey key).history_cases with same | ⟨added, checks, _, grown⟩
    · exact before key transaction (same ▸ member)
    · rw [Journal.history, grown] at member
      rcases List.mem_append.mp member with old | new
      · exact before key transaction old
      · have isAdded : transaction = added := by simpa using new
        subst isAdded
        cases checks with
        | recordEvm checked =>
          obtain ⟨envelope, made, _⟩ := checked.made
          exact ⟨envelope, made⟩
        | recordCosmos checked => exact checked.made
        | replaceEvm old checked =>
          obtain ⟨_, envelope, _, _, _, made, _⟩ := checked.made
          exact ⟨envelope, made⟩
        | replaceCosmos old checked =>
          exact checked.made (before key _ (mem_history_of_get checked.current))

theorem DeployConfig.Lawful.change {config next : DeployConfig lib}
    (lawful : config.Lawful honest plan) (step : (deployService lib honest plan).Step config next) :
    (deployService lib honest plan).Change
      (Transition lib honest plan anyRecord)
      config.here config.world next.here next.world :=
  Service.Obedient.change lawful step

end Invariants

end Axe.Hardened

import Axe.HardenedHistory
import Axe.HardenedProgress

namespace Axe.Hardened

/-!
# The pinned gateway

The address of the gateway is part of the Cosmos configuration before the
gateway exists.  Its two transactions are therefore never retired, use the two
nonces of the prediction, and the proxy starts with the approved verifier set.
-/

section Moves

variable {lib : Platform} {honest : Prop} {plan : Plan} {world : Chains lib}
variable {records : ActionKey → Transaction → Prop} {journal later : Journal}

theorem JournalMove.stays (move : JournalMove lib honest plan world records journal later)
    {key : ActionKey} (isGateway : key.step = .axelarGateway) {transaction : Transaction}
    (current : journal.get key = some transaction) :
    ∃ now, later.get key = some now ∧ now.slot = transaction.slot := by
  have change := move.atKey key
  have present : ∃ now, later.get key = some now := by
    have shape : (later.ledger key).current = later.get key := rfl
    cases change with
    | keep same => exact ⟨transaction, by rw [← shape, same]; exact current⟩
    | recordEvm tx _ _ grown => exact ⟨.evm tx, by rw [← shape, grown]⟩
    | recordCosmos tx _ _ grown => exact ⟨.cosmos tx, by rw [← shape, grown]⟩
    | replaceEvm old tx _ grown => exact ⟨.evm tx, by rw [← shape, grown]⟩
    | replaceCosmos old tx _ grown => exact ⟨.cosmos tx, by rw [← shape, grown]⟩
    | retireEvm _ _ unpinned _ _ => exact (unpinned isGateway).elim
    | retireCosmos _ _ unpinned _ _ => exact (unpinned isGateway).elim
  obtain ⟨now, isNow⟩ := present
  exact ⟨now, isNow, change.same_slot current isNow⟩

theorem Transaction.slot_evm {transaction : Transaction} {tx : EvmTransaction}
    (same : transaction.slot = (Transaction.evm tx).slot) :
    ∃ other, transaction = .evm other ∧ other.sender = tx.sender ∧ other.nonce = tx.nonce := by
  cases transaction with
  | evm other =>
    simp only [Transaction.slot, Sum.inl.injEq, Prod.mk.injEq] at same
    exact ⟨other, rfl, same⟩
  | cosmos other => simp [Transaction.slot] at same

theorem JournalMove.initialSigners_cases
    (move : JournalMove lib honest plan world records journal later) :
    later.initialSigners = journal.initialSigners ∨
      journal.get gatewayProxyKey = none ∧ later.get gatewayProxyKey = none := by
  cases move with
  | approve initial absent => exact .inr ⟨absent, absent⟩
  | other later same => exact .inl same.initialSigners
  | retireEvm key old gasLimit _ _ _ => cases gasLimit <;> exact .inl rfl
  | retireCosmos key old gasLimit _ _ _ => cases gasLimit <;> exact .inl rfl
  | _ => exact .inl rfl

/-- What the journal has for the gateway is pinned by the saved state and the plan. -/
structure GatewayPinned (lib : Platform) (plan : Plan) (saved : State)
    (journal : Journal) : Prop where
  implementation : ∀ transaction, journal.get gatewayImplementationKey = some transaction →
      PinsImplementation lib saved transaction
  proxy : ∀ transaction, journal.get gatewayProxyKey = some transaction →
      PinsProxy lib plan journal transaction

theorem gatewayPinned_empty (saved : State) (fingerprint : Digest) :
    GatewayPinned lib plan saved (Journal.empty fingerprint) := by
  constructor <;>
  · intro transaction found
    rw [Journal.get_empty] at found
    cases found

theorem GatewayPinned.moveImplementation {saved : State}
    (gateway : GatewayPinned lib plan saved journal)
    (move : JournalMove lib honest plan world records journal later)
    (recorded : ∀ transaction, records gatewayImplementationKey transaction →
        PinsImplementation lib saved transaction)
    {transaction : Transaction} (found : later.get gatewayImplementationKey = some transaction) :
    PinsImplementation lib saved transaction := by
  cases before : journal.get gatewayImplementationKey with
  | some old =>
    obtain ⟨tx, rfl, bound, predicted⟩ := gateway.implementation old before
    obtain ⟨now, isNow, slot⟩ := move.stays rfl before
    cases found.symm.trans isNow
    obtain ⟨other, rfl, sender, nonce⟩ := Transaction.slot_evm slot
    exact ⟨other, rfl, by rw [nonce]; exact bound, by rw [sender, nonce]; exact predicted⟩
  | none =>
    have shape : (later.ledger gatewayImplementationKey).current =
          later.get gatewayImplementationKey := rfl
    cases move.atKey gatewayImplementationKey with
    | keep same =>
      rw [← shape, same] at found
      cases before.symm.trans found
    | recordEvm tx _ permitted grown =>
      rw [← shape, grown] at found
      cases found
      exact recorded _ permitted
    | recordCosmos tx checked _ _ => exact absurd checked.label (by decide)
    | replaceEvm old tx checked _ => cases before.symm.trans checked.current
    | replaceCosmos old tx checked _ => cases before.symm.trans checked.current
    | retireEvm _ current _ _ _ => cases before.symm.trans current
    | retireCosmos _ current _ _ _ => cases before.symm.trans current

theorem PinsProxy.move (move : JournalMove lib honest plan world records journal later)
    {transaction : Transaction} (recorded : later.get gatewayProxyKey = some transaction)
    (pins : PinsProxy lib plan journal transaction) :
    PinsProxy lib plan later transaction := by
  obtain ⟨tx, first, initial, envelope, isTx, current, sender, nonce, approved, rest⟩ := pins
  obtain ⟨now, isNow, slot⟩ := move.stays rfl current
  obtain ⟨implementation, rfl, sameSender, sameNonce⟩ := Transaction.slot_evm slot
  have signers : later.initialSigners = some initial := by
    rcases move.initialSigners_cases with same | ⟨_, absent⟩
    · exact same.trans approved
    · cases recorded.symm.trans absent
  exact ⟨tx, implementation, initial, envelope, isTx, isNow, sender.trans sameSender.symm,
    by rw [nonce, sameNonce], signers, rest⟩

theorem PinsProxy.replaced {key : ActionKey} {old tx : EvmTransaction}
    (pins : PinsProxy lib plan journal (.evm old))
    (checked : ReplacesEvm lib plan journal key old tx) :
    PinsProxy lib plan journal (.evm tx) := by
  obtain ⟨_, first, initial, envelope, isOld, current, sender, nonce, approved, decodes,
    kind, payload⟩ := pins
  cases isOld
  obtain ⟨oldEnvelope, newEnvelope, decodesOld, _, _, made, valid⟩ := checked.made
  cases decodesOld.symm.trans decodes
  have sameKind := (validateReplacement_ok valid).kind
  have sameInput := (validateReplacement_ok valid).input
  refine ⟨tx, first, initial, newEnvelope, rfl, current, checked.sender.trans sender,
    checked.nonce.trans nonce, approved, ?_, sameKind ▸ kind, ?_⟩
  · rw [made.raw, lib.decodeEnvelope_encode]
  · rw [checked.sender, ← sameInput]
    exact payload

theorem GatewayPinned.move {saved : State} (gateway : GatewayPinned lib plan saved journal)
    (move : JournalMove lib honest plan world records journal later)
    (implementation : ∀ transaction, records gatewayImplementationKey transaction →
        PinsImplementation lib saved transaction)
    (proxy : ∀ transaction, records gatewayProxyKey transaction →
        PinsProxy lib plan journal transaction) :
    GatewayPinned lib plan saved later := by
  refine ⟨fun _ found => gateway.moveImplementation move implementation found, ?_⟩
  intro transaction found
  refine PinsProxy.move move found ?_
  have shape : (later.ledger gatewayProxyKey).current = later.get gatewayProxyKey := rfl
  cases move.atKey gatewayProxyKey with
  | keep same =>
    rw [← shape, same] at found
    exact gateway.proxy transaction found
  | recordEvm tx _ permitted grown =>
    rw [← shape, grown] at found
    cases found
    exact proxy _ permitted
  | recordCosmos tx checked _ _ => exact absurd checked.label (by decide)
  | replaceEvm old tx checked grown =>
    rw [← shape, grown] at found
    cases found
    exact (gateway.proxy _ checked.current).replaced checked
  | replaceCosmos old tx checked _ =>
    obtain ⟨_, _, _, _, isEvm, _⟩ := gateway.proxy _ checked.current
    cases isEvm
  | retireEvm _ _ unpinned _ _ => exact (unpinned rfl).elim
  | retireCosmos _ _ unpinned _ _ => exact (unpinned rfl).elim

end Moves

section Runs

variable {lib : Platform} {honest : Prop} {plan : Plan}

/-- The steps are in order, and both journals pin the gateway of the saved state. -/
structure GatewayKept (lib : Platform) (plan : Plan) (here : Station) (saved : State)
    (count : Nat) : Prop where
  ordered : Ordered plan here saved count
  memory : GatewayPinned lib plan saved here.memory
  disk : ∀ file, here.disk = some file → GatewayPinned lib plan saved file

theorem GatewayPinned.saved {saved saved' : State} {count : Nat} {launches : List Launched}
    {journal : Journal} (gateway : GatewayPinned lib plan saved journal)
    (ordered : journal.InOrder count launches)
    (same : StepName.predictGatewayAddress.place < count →
        saved'.predictedGatewayAddress = saved.predictedGatewayAddress) :
    GatewayPinned lib plan saved' journal := by
  refine ⟨fun transaction found => ?_, gateway.proxy⟩
  obtain ⟨tx, isTx, bound, predicted⟩ := gateway.implementation transaction found
  have begun : journal.history gatewayImplementationKey ≠ [] :=
    List.ne_nil_of_mem (mem_history_of_get found)
  have late : StepName.predictGatewayAddress.place < count := by
    have place : StepName.predictGatewayAddress.place <
        gatewayImplementationKey.step.place := by decide +kernel
    exact Nat.lt_of_lt_of_le place (ordered _ begun).1
  exact ⟨tx, isTx, bound, (same late).trans predicted⟩

theorem GatewayKept.move {here : Station} {world : Chains lib} {saved : State} {count : Nat}
    {later : Journal} (kept : GatewayKept lib plan here saved count)
    (move : JournalMove lib honest plan world
        ((stagedPolicy lib plan).records here) here.memory later) :
    GatewayPinned lib plan saved later := by
  refine kept.memory.move move ?_ ?_
  · rintro transaction ⟨state, stage, records⟩
    cases kept.ordered.underway.isSaved.symm.trans records.isSaved
    exact records.implementation rfl
  · rintro transaction ⟨state, stage, records⟩
    exact records.proxy rfl

theorem GatewayKept.transition {here here' : Station} {world world' : Chains lib}
    {saved : State} {count : Nat} (kept : GatewayKept lib plan here saved count)
    (transition : RunnerTransition lib honest plan here world here' world') :
    ∃ saved' count', GatewayKept lib plan here' saved' count' := by
  obtain ⟨saved', count', ordered', predicted⟩ := kept.ordered.transition transition
  -- A change of the journal leaves the state file alone, and the other way round.
  rcases transition.saved_cases.2 with sameSaved | ⟨_, _, sameMemory, sameDisk⟩
  · have sameState : saved' = saved := by
      have isSaved := ordered'.underway.isSaved
      rw [sameSaved, kept.ordered.underway.isSaved] at isSaved
      exact (Option.some.inj isSaved).symm
    subst sameState
    refine ⟨saved', count', ordered', ?_, ?_⟩
    · rcases transition.memory_cases with
        same | ⟨_, opened | ⟨fingerprint, fresh⟩⟩ | ⟨_, move⟩
      · exact same ▸ kept.memory
      · exact kept.disk _ opened
      · exact fresh ▸ gatewayPinned_empty saved' fingerprint
      · exact kept.move move
    · intro file onDisk
      rcases transition.disk_cases with
        same | ⟨_, fingerprint, fresh⟩ | ⟨_, written, move⟩
      · exact kept.disk file (same ▸ onDisk)
      · cases onDisk.symm.trans fresh
        exact gatewayPinned_empty saved' fingerprint
      · cases onDisk.symm.trans written
        exact kept.move move
  · refine ⟨saved', count', ordered', ?_, ?_⟩
    · rw [sameMemory]
      exact kept.memory.saved kept.ordered.memory predicted
    · intro file onDisk
      rw [sameDisk] at onDisk
      exact (kept.disk file onDisk).saved (kept.ordered.disk file onDisk) predicted

theorem RunnerRuns.gatewayKept {first last : DeployConfig lib}
    (run : RunnerRuns lib honest first last) (planned : first.Planned plan) :
    last.Orderly honest plan ∧ (honest → last.here.Sound lib) ∧
      ∃ saved count, GatewayKept lib plan last.here saved count := by
  let holds : Station → Chains lib → Prop :=
    fun here _ => ∃ saved count, GatewayKept lib plan here saved count
  obtain ⟨state, ordered⟩ := planned.ordered
  have reached : (∃ saved count, Underway plan last.here saved count) ∧
        (honest → last.here.Sound lib) ∧ last.Orderly honest plan ∧
        holds last.here last.world := by
    refine RunnerRuns.invariant ?_ ?_ ?_ run ⟨state, 0, ordered.underway⟩
      (fun _ => planned.sound) planned.orderly ?_
    · rintro _ _ _ _ _ _ _ transition ⟨saved, count, kept⟩
      exact kept.transition transition
    · intro here world later _ kept
      exact kept
    · rintro here world options context ⟨saved, count, kept⟩
      exact ⟨saved, count, kept.ordered.boot options context,
        gatewayPinned_empty saved _, kept.disk⟩
    · obtain ⟨_, context, fresh, _⟩ := planned.here
      refine ⟨state, 0, ordered, ?_, ?_⟩
      · rw [fresh]
        exact gatewayPinned_empty state []
      · rw [fresh]
        exact fun _ absent => by cases absent
  exact ⟨reached.2.2.1, reached.2.1, reached.2.2.2⟩

/-- The saved journal has the property. -/
def FileKeeps (property : Journal → Prop) (here : Station) : Prop :=
  ∃ file, here.disk = some file ∧ property file

section Files

variable {property : Journal → Prop}
  (core : ∀ {journal later}, journal.core = later.core → property journal → property later)
  (moves : ∀ {world records journal later},
    JournalMove lib honest plan world records journal later → property journal → property later)

include core moves

theorem FileKeeps.transition {policy : Policy} {here here' : Station} {world world' : Chains lib}
    (keeps : FileKeeps property here)
    (transition : Transition lib honest plan policy here world here' world') :
    FileKeeps property here' := by
  obtain ⟨file, onDisk, holds⟩ := keeps
  rcases transition.disk_cases with same | ⟨absent, _⟩ | ⟨synced, written, move⟩
  · exact ⟨file, same.trans onDisk, holds⟩
  · cases onDisk.symm.trans absent
  · refine ⟨_, written, moves move (core ?_ holds)⟩
    unfold Station.Synced at synced
    rw [onDisk] at synced
    exact Option.some.inj synced

theorem RunnerRuns.fileKeeps {first middle last : DeployConfig lib}
    (run : RunnerRuns lib honest first middle)
    (further : RunnerRuns lib honest middle last) (planned : first.Planned plan)
    (keeps : FileKeeps property middle.here) :
    FileKeeps property last.here := by
  let holds : Station → Chains lib → Prop := fun here _ => FileKeeps property here
  obtain ⟨orderly, sound, saved, count, kept⟩ := run.gatewayKept planned
  have reached : holds last.here last.world := by
    refine (RunnerRuns.invariant ?_ ?_ ?_ further
      ⟨saved, count, kept.ordered.underway⟩ sound orderly keeps).2.2.2
    · intro _ _ _ _ _ _ _ transition before
      exact FileKeeps.transition core moves before transition
    · intro _ _ _ _ before
      exact before
    · intro _ _ _ _ before
      exact before
  exact reached

end Files

/-- An action of the gateway in the file stays there with its slot. -/
theorem RunnerRuns.slot_stays
    {first middle last : DeployConfig lib}
    (run : RunnerRuns lib honest first middle)
    (further : RunnerRuns lib honest middle last)
    (planned : first.Planned plan)
    {file : Journal}
    {key : ActionKey}
    {transaction : Transaction}
    (onDisk : middle.here.disk = some file)
    (isGateway : key.step = .axelarGateway)
    (current : file.get key = some transaction) :
    ∃ later now, last.here.disk = some later ∧ later.get key = some now ∧
      now.slot = transaction.slot := by
  let present : Journal → Prop :=
    fun journal => ∃ now, journal.get key = some now ∧ now.slot = transaction.slot
  have reached : FileKeeps present last.here := by
    refine run.fileKeeps ?_ ?_ further planned ⟨file, onDisk, transaction, current, rfl⟩
    · rintro journal later same ⟨now, found, slot⟩
      refine ⟨now, ?_, slot⟩
      rw [← Journal.get_core, ← same, Journal.get_core]
      exact found
    · rintro world records journal later move ⟨now, found, slot⟩
      obtain ⟨next, isNext, sameSlot⟩ := move.stays isGateway found
      exact ⟨next, isNext, sameSlot.trans slot⟩
  obtain ⟨later, onLater, now, found, slot⟩ := reached
  exact ⟨later, now, onLater, found, slot⟩

/-- Once the proxy is in the file the approved set does not change. -/
theorem RunnerRuns.signers_stay
    {first middle last : DeployConfig lib}
    (run : RunnerRuns lib honest first middle)
    (further : RunnerRuns lib honest middle last)
    (planned : first.Planned plan)
    {file : Journal}
    (onDisk : middle.here.disk = some file)
    (recorded : file.get gatewayProxyKey ≠ none) :
    ∃ later, last.here.disk = some later ∧ later.initialSigners = file.initialSigners := by
  let fixed : Journal → Prop := fun journal =>
      (∃ now, journal.get gatewayProxyKey = some now) ∧ journal.initialSigners = file.initialSigners
  have reached : FileKeeps fixed last.here := by
    refine run.fileKeeps ?_ ?_ further planned
      ⟨file, onDisk, Option.ne_none_iff_exists'.mp recorded, rfl⟩
    · rintro journal later same ⟨⟨now, found⟩, signers⟩
      refine ⟨⟨now, ?_⟩, ?_⟩
      · rw [← Journal.get_core, ← same, Journal.get_core]
        exact found
      · exact (congrArg Journal.initialSigners same).symm.trans signers
    · rintro world records journal later move ⟨⟨now, found⟩, signers⟩
      obtain ⟨next, isNext, _⟩ := move.stays rfl found
      refine ⟨⟨next, isNext⟩, ?_⟩
      rcases move.initialSigners_cases with same | ⟨absent, _⟩
      · exact same.trans signers
      · cases found.symm.trans absent
  obtain ⟨later, onLater, _, signers⟩ := reached
  exact ⟨later, onLater, signers⟩

/--
The gateway is pinned, however the runner is launched and stopped.

An action of the gateway in the journal file is there ever after, with its
sender and its nonce, so it is never retired.  Once the proxy is in the file the
approved set does not change.  Whatever the journal has of the gateway, in
memory or in the file, fits: the two transactions have one sender and successive
nonces, the address of the second one is the predicted address of the state
file, and the creation code of the proxy has the signers, the threshold and the
nonce of the approved set.
-/
theorem gateway_is_pinned
    {first middle last : DeployConfig lib}
    (run : RunnerRuns lib honest first middle)
    (further : RunnerRuns lib honest middle last)
    (planned : first.Planned plan) :
    (∀ file key transaction, middle.here.disk = some file → key.step = .axelarGateway →
        file.get key = some transaction → ∃ later now,
            last.here.disk = some later ∧ later.get key = some now ∧ now.slot = transaction.slot) ∧
      (∀ file, middle.here.disk = some file → file.get gatewayProxyKey ≠ none → ∃ later,
            last.here.disk = some later ∧ later.initialSigners = file.initialSigners) ∧
      (∀ journal implementation proxy, journal = last.here.memory ∨ last.here.disk = some journal →
          journal.get gatewayImplementationKey = some implementation →
          journal.get gatewayProxyKey = some proxy → ∃ state one two,
              last.here.saved = some state ∧ implementation = .evm one ∧
                proxy = .evm two ∧ two.sender = one.sender ∧
                two.nonce.toNat = one.nonce.toNat + 1 ∧
                state.predictedGatewayAddress = some (lib.createAddress one.sender two.nonce)) ∧
      ∀ journal proxy, journal = last.here.memory ∨ last.here.disk = some journal →
          journal.get gatewayProxyKey = some proxy → ∃ tx initial envelope bytecode implementation,
              proxy = .evm tx ∧ journal.initialSigners = some initial ∧
                lib.decodeEnvelope tx.raw = some envelope ∧
                envelope.kind = .create ∧
                envelope.input = gatewayProxyCode lib bytecode implementation tx.sender
                    (encodeGatewaySetupParams lib plan.gatewayOperator
                      initial.signers initial.threshold initial.nonce) := by
  obtain ⟨_, _, state, count, kept⟩ := RunnerRuns.gatewayKept (run.trans further) planned
  have pinned : ∀ journal, journal = last.here.memory ∨ last.here.disk = some journal →
        GatewayPinned lib plan state journal := by
    rintro journal (rfl | onDisk)
    · exact kept.memory
    · exact kept.disk journal onDisk
  refine ⟨?_, ?_, ?_, ?_⟩
  · exact fun _ _ _ => run.slot_stays further planned
  · exact fun _ => run.signers_stay further planned
  · intro journal implementation proxy isJournal foundFirst foundSecond
    have gateway := pinned journal isJournal
    obtain ⟨one, isOne, bound, predicted⟩ := gateway.implementation _ foundFirst
    obtain ⟨two, other, _, _, isTwo, current, sender, nonce, _⟩ := gateway.proxy _ foundSecond
    cases (isOne ▸ foundFirst).symm.trans current
    have number : (one.nonce + 1).toNat = one.nonce.toNat + 1 := by
      rw [BitVec.toNat_add]
      exact Nat.mod_eq_of_lt bound
    exact ⟨state, one, two, kept.ordered.underway.isSaved, isOne, isTwo, sender,
      nonce ▸ number, nonce ▸ predicted⟩
  · intro journal proxy isJournal found
    obtain ⟨tx, _, initial, envelope, isTx, _, _, _, approved, decodes, kind, bytecode,
      implementation, payload⟩ := (pinned journal isJournal).proxy _ found
    exact ⟨tx, initial, envelope, bytecode, implementation, isTx, approved, decodes, kind, payload⟩

end Runs

open Sample in
/-- The result at a run that deploys both contracts of the gateway. -/
theorem gateway_is_pinned_when_deployed :
    ∃ (middle last : DeployConfig Sample.platform) (file : Journal)
        (state : State) (one two : EvmTransaction),
      RunnerRuns Sample.platform True plannedStart middle ∧
        RunnerRuns Sample.platform True middle last ∧
        last.here.disk = some file ∧
        file.get gatewayImplementationKey = some (.evm one) ∧
        file.get gatewayProxyKey = some (.evm two) ∧
        two.nonce.toNat = one.nonce.toNat + 1 ∧
        last.here.saved = some state ∧
        state.predictedGatewayAddress =
          some (Sample.platform.createAddress one.sender two.nonce) := by
  obtain ⟨middle, last, run, further, _, file, onDisk, first, second⟩ := gateway_deployment
  obtain ⟨implementation, isFirst⟩ := Option.ne_none_iff_exists'.mp first
  obtain ⟨proxy, isSecond⟩ := Option.ne_none_iff_exists'.mp second
  obtain ⟨_, _, fits, _⟩ := gateway_is_pinned run further plannedStart_planned
  obtain ⟨state, one, two, isSaved, rfl, rfl, _, nonce, predicted⟩ :=
    fits file implementation proxy (.inr onDisk) isFirst isSecond
  exact ⟨middle, last, file, state, one, two, run, further, onDisk, isFirst, isSecond,
    nonce, isSaved, predicted⟩

end Axe.Hardened

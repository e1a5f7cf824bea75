import Axe.HardenedAtMostOnce

namespace Axe.Hardened

/-!
# Durable before broadcast

Signed bytes are handed to a node only after their transaction is in the
journal file, and it stays there.  The only other bytes a node gets are those
of a gas simulation, and they carry no valid signature.
-/

/-- What was handed to a chain is in the file. -/
def Durable (lib : Platform) (here : Station) : Handed → Prop
  | .evm raw =>
    ∃ key tx, .evm tx ∈ here.fileHistory key ∧ tx.raw = raw ∧ tx.hash = lib.keccak256 raw
  | .cosmos raw =>
    lib.ValidlySigned raw → ∃ key tx, .cosmos tx ∈ here.fileHistory key ∧
        tx.raw = raw ∧ tx.hash = lib.sha256 raw

section Runs

variable {lib : Platform} {honest : Prop} {plan : Plan} {policy : Policy}
variable {here here' : Station} {world world' : Chains lib}

theorem Durable.mono {handed : Handed} (durable : Durable lib here handed)
    (grows : ∀ key, here.fileHistory key <+: here'.fileHistory key) :
    Durable lib here' handed := by
  cases handed with
  | evm raw =>
    obtain ⟨key, tx, member, same⟩ := durable
    exact ⟨key, tx, (grows key).subset member, same⟩
  | cosmos raw =>
    intro signed
    obtain ⟨key, tx, member, same⟩ := durable signed
    exact ⟨key, tx, (grows key).subset member, same⟩

theorem Transition.handed_cases
    (transition : Transition lib honest plan policy here world here' world') :
    world'.handed = world.handed ∨
      ∃ handed, world'.handed = world.handed ++ [handed] ∧ here' = here ∧
        Durable lib here handed := by
  cases transition with
  | handEvm key tx synced recorded hash =>
    refine .inr ⟨.evm tx.raw, rfl, rfl, key, tx, ?_, rfl, hash⟩
    rw [(synced.file key).1]
    exact recorded
  | handCosmos key tx synced recorded hash =>
    refine .inr ⟨.cosmos tx.raw, rfl, rfl, fun _ => ⟨key, tx, ?_, rfl, hash⟩⟩
    rw [(synced.file key).1]
    exact recorded
  | simulate raw unsigned =>
    exact .inr ⟨.cosmos raw, rfl, rfl, fun signed => absurd signed unsigned⟩
  | _ => exact .inl rfl

theorem Transition.durable
    (transition : Transition lib honest plan anyRecord here world here' world')
    (before : ∀ handed ∈ world.handed, Durable lib here handed) :
    ∀ handed ∈ world'.handed, Durable lib here' handed := by
  have grows : ∀ key, here.fileHistory key <+: here'.fileHistory key :=
    fileHistory_grows (.perform transition)
  intro handed member
  rcases transition.handed_cases with same | ⟨added, handedOver, unchanged, durable⟩
  · exact (before handed (same ▸ member)).mono grows
  · rw [handedOver] at member
    rcases List.mem_append.mp member with earlier | last
    · exact (before handed earlier).mono grows
    · have isAdded : handed = added := by simpa using last
      exact isAdded ▸ unchanged ▸ durable

theorem DeployRuns.durable {permit : Journal → Journal → Prop} {first last : DeployConfig lib}
    (initial : first.Initial) (run : DeployRuns lib honest plan permit first last) :
    ∀ handed ∈ last.world.handed, Durable lib last.here handed := by
  let holds : Station → Chains lib → Prop :=
    fun here world => ∀ handed ∈ world.handed, Durable lib here handed
  have reached : holds last.here last.world ∧ last.Lawful honest plan := by
    refine DeployRuns.invariant ?_ ?_ ?_ run initial ?_
    · intro here world here' world' transition _ before
      exact transition.durable before
    · intro here world later evolved before handed member
      exact before handed (evolved.cases.1 ▸ member)
    · intro here world options context before handed member
      exact (before handed member).mono fun _ => List.prefix_rfl
    · intro handed member
      rw [initial.handed] at member
      cases member
  exact reached.1

/--
At every point of every run, whatever writes failed and however often the
process stopped, each signed transaction whose bytes were handed to a node is in
the journal file with the hash of these bytes, and it is there at every later
point.
-/
theorem handed_transactions_are_durable
    {first middle last : DeployConfig lib}
    (initial : first.Initial)
    (before : DeployRuns lib honest plan anyChange first middle)
    (after : DeployRuns lib honest plan anyChange middle last) :
    (∀ raw, .evm raw ∈ middle.world.handed → ∃ key tx, tx.raw = raw ∧ tx.hash = lib.keccak256 raw ∧
          .evm tx ∈ middle.here.fileHistory key ∧
          .evm tx ∈ last.here.fileHistory key) ∧
      ∀ raw, .cosmos raw ∈ middle.world.handed → lib.ValidlySigned raw →
        ∃ key tx, tx.raw = raw ∧ tx.hash = lib.sha256 raw ∧
          .cosmos tx ∈ middle.here.fileHistory key ∧
          .cosmos tx ∈ last.here.fileHistory key := by
  have durable := DeployRuns.durable initial before
  have stays : ∀ {key transaction}, transaction ∈ middle.here.fileHistory key →
        transaction ∈ last.here.fileHistory key :=
    fun member => (DeployRuns.fileHistory_grows initial before after _).subset member
  constructor
  · intro raw handed
    obtain ⟨key, tx, member, sameRaw, hash⟩ := durable (.evm raw) handed
    exact ⟨key, tx, sameRaw, hash, member, stays member⟩
  · intro raw handed signed
    obtain ⟨key, tx, member, sameRaw, hash⟩ := durable (.cosmos raw) handed signed
    exact ⟨key, tx, sameRaw, hash, member, stays member⟩

end Runs

open Sample in
/-- The result at a run that hands over two transactions of one action. -/
theorem probe_transactions_are_durable : ∃ last : DeployConfig Sample.platform,
      DeployRuns Sample.platform True Sample.plan anyChange start last ∧
      (Handed.evm (Sample.platform.encodeEnvelope (probeEnvelope 0)) ∈ last.world.handed ∧
        Handed.evm (Sample.platform.encodeEnvelope (probeEnvelope 1)) ∈
          last.world.handed) ∧
      ∀ raw, .evm raw ∈ last.world.handed →
        ∃ key tx, tx.raw = raw ∧ tx.hash = Sample.platform.keccak256 raw ∧
          .evm tx ∈ last.here.fileHistory key ∧
          .evm tx ∈ last.here.fileHistory key := by
  obtain ⟨last, run, found⟩ := @replay_run anyChange _ probeScript (fun last =>
        Handed.evm (Sample.platform.encodeEnvelope (probeEnvelope 0)) ∈ last.world.handed ∧
          Handed.evm (Sample.platform.encodeEnvelope (probeEnvelope 1)) ∈
            last.world.handed) _ (by decide +kernel)
  exact ⟨last, run, found, (handed_transactions_are_durable start_initial run .refl).1⟩

end Axe.Hardened

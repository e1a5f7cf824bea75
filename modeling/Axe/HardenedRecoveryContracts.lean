import Axe.HardenedCosmosContracts
import Axe.HardenedEvmContracts

namespace Axe.Hardened

/-!
# Contracts of retirement

A retirement takes one transaction out of the journal, after its proof of
failure.  For an EVM action that proof is a finalized failure of its nonce.
For a Cosmos action it is one failed result for its sequence number.
-/

section Failures

variable {lib : Platform} {saved : CosmosTransaction}

theorem confirmedFailure_some {journal : Journal} {tx : CosmosTransaction} {attempt : Transaction}
    (chosen : confirmedFailure journal saved attempt = some tx) :
    attempt = .cosmos tx ∧ tx.sender = saved.sender ∧ tx.sequence = saved.sequence ∧
      ∃ height code response, journal.confirmation (.cosmos tx.hash) =
            some (.cosmos height code response) ∧
          0 < height ∧ code ≠ 0 := by
  cases attempt with
  | evm _ => cases chosen
  | cosmos candidate =>
    simp only [confirmedFailure] at chosen
    split at chosen
    · rename_i same
      split at chosen
      · rename_i height code response recorded
        split at chosen
        · rename_i failed
          cases chosen
          exact ⟨rfl, same.1, same.2, height, code, response, recorded, failed⟩
        · cases chosen
      · cases chosen
    · cases chosen

theorem failedAttempt_ok {journal : Journal} {key : ActionKey} {hash : Digest}
    (current : journal.get key = some (.cosmos saved))
    (failed : failedAttempt lib journal key saved = .ok hash) :
    SomeFailed journal key saved := by
  unfold failedAttempt at failed
  split at failed
  · cases failed
  · rename_i tx found
    obtain ⟨attempt, member, chosen⟩ := List.exists_of_findSome?_eq_some found
    obtain ⟨rfl, sender, sequence, height, code, response, recorded⟩ := confirmedFailure_some chosen
    refine ⟨tx, height, code, response, ?_, sender, sequence, recorded⟩
    simpa [Journal.history, Journal.ledger, Ledger.history, current] using member

theorem retryableCosmos_unpinned {key : ActionKey} (retryable : retryableCosmos key = true) :
    key.step ≠ .axelarGateway := by
  simp only [retryableCosmos, decide_eq_true_eq] at retryable
  rcases retryable with same | same | same | same <;> simp [same, ActionKey.cosmos]

end Failures

section Programs

variable {lib : Platform} {honest : Prop} {policy : Policy} {session : Session}
variable {here : Station} {world : Chains lib}

def ProvesFailure (honest : Prop) (journal : Journal) (world : Chains lib)
    (key : ActionKey) : Transaction → Prop
  | .evm saved => honest → world.evm.FailedFinally saved.sender saved.nonce
  | .cosmos saved => SomeFailed journal key saved

variable {key : ActionKey} {saved : Transaction} {lcd : String}

variable (synced : here.Synced) (sound : honest → here.memory.Sound lib)
  (current : here.memory.get key = some saved)

include synced sound current

theorem keeps_proveFailure : Keeps lib honest session.plan policy
      (proveFailure lib session key saved lcd)
      (fun _ after moved => here.SameCore after ∧ key.step ≠ .axelarGateway ∧
        ProvesFailure honest after.memory moved key saved)
      (fun _ _ _ => True) here world := by
  cases saved with
  | evm saved => exact keeps_proveFailed synced sound
  | cosmos saved =>
    refine Meets.ensure_bind (fun retryable => ?_) (fun _ => trivial)
    -- The lookup may fail, also while it enters a result.
    have looked : Keeps lib honest session.plan policy
          (confirmed lib session lcd saved key).attempt
          (fun _ after _ => here.SameCore after)
          (fun _ _ _ => True) here world :=
      Meets.attempt ((keeps_confirmed synced (.refl here)).weaken
        (fun _ _ _ ends => ends.1) (fun _ _ _ ends => ends))
    refine looked.andThen (fun _ _ _ _ => trivial) ?_
    intro _ after _ same
    refine keeps_currentJournal fun _ _ => ?_
    refine keeps_attemptValue (fun hash failed => ?_) (fun _ => trivial)
    refine keeps_need (fun _ _ _ => rfl) ?_ (fun _ _ => trivial)
    intro _ _ _ _ account _
    refine Meets.ensure_bind (fun _ => ?_) (fun _ => trivial)
    exact ⟨same, retryableCosmos_unpinned retryable,
      failedAttempt_ok ((same.get key).trans current) failed⟩

theorem keeps_retryFailed : Keeps lib honest session.plan policy
      (retryFailed lib session key saved lcd)
      (fun retired after _ => retired = false ∧ after = here)
      (fun _ _ _ => True) here world := by
  unfold retryFailed
  split
  · refine keeps_currentState fun _ _ => ?_
    refine keeps_check (fun _ => ?_) (fun _ => trivial)
    refine (keeps_proveFailure synced sound current).andThen (fun _ _ _ _ => trivial) ?_
    intro _ after moved proved
    obtain ⟨same, unpinned, failed⟩ := proved
    refine keeps_askOperator fun asked evolved approved => ?_
    split
    · refine keeps_retireAction (same.synced synced)
        ((same.get key).trans current) ?_ (fun _ _ => trivial) (fun _ _ _ => trivial)
      intro last lastEvolved
      have nowCurrent := (same.get key).trans current
      cases saved with
      | evm saved =>
        exact .retireEvm key saved _ nowCurrent unpinned fun trusted =>
          Evolves.failedFinally (evolved.trans lastEvolved) (failed trusted)
      | cosmos saved => exact .retireCosmos key saved _ nowCurrent unpinned failed
    · trivial
  · exact ⟨rfl, rfl⟩

theorem keeps_recoverAction {scope : Scope} : Keeps lib honest session.plan policy
      (recoverAction lib session scope key saved lcd)
      (fun _ after _ => here.Touches key after)
      (fun _ _ _ => True) here world := by
  refine (keeps_retryFailed synced sound current).andThen (fun _ _ _ _ => trivial) ?_
  rintro _ now _ ⟨rfl, rfl⟩
  cases saved with
  | evm saved =>
    refine (keeps_reconcileEvm synced sound current).andThen (fun _ _ _ _ => trivial) ?_
    intro _ after _ touched
    exact touched
  | cosmos saved => exact keeps_reconcileCosmos synced current

end Programs

end Axe.Hardened

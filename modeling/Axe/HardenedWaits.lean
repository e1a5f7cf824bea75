import Axe.HardenedRunner
import Axe.ProgramGuard

namespace Axe.Hardened

/-!
# What the reconcile pass waits for

The process waits for the inclusion of an EVM transaction in one place, the loop
after a broadcast.  Which action it waits for is a property of the programs
alone: bringing one action to its result never waits for another one.
-/

section Calls

variable {lib : Platform} {session : Session}

def Call.awaited : Call → Option ActionKey
  | .waitInclusion key => some key
  | _ => none

def WaitsFor (key : ActionKey) (op : Call) : Prop := ∀ other, op.awaited = some other → other = key

/-- A call that neither waits for an inclusion nor sends an EVM transaction. -/
def Call.plain : Call → Bool
  | .waitInclusion _ => false
  | .sendRawTransaction _ => false
  | _ => true

variable {key : ActionKey} {may : Call → Prop}

theorem only_check (result : Except String Unit) : (check result).Only may := by
  unfold check
  split <;> trivial

theorem only_attemptValue {Value : Type} (result : Except String Value) :
    (attemptValue result).Only may := by
  unfold attemptValue
  split <;> trivial

variable (plain : ∀ op : Call, op.plain = true → may op)
include plain

theorem only_ask (op : Call) (quiet : op.plain = true) : (ask op).Only may :=
  ⟨plain op quiet, fun _ => trivial⟩

theorem only_need {Value : Type} (op : Call) (unpack : op.Reply → Option Value)
    (error : Stop) (quiet : op.plain = true) :
    (need op unpack error).Only may :=
  ⟨plain op quiet, fun _ => Program.only_orFail _ _⟩

theorem only_currentJournal : currentJournal.Only may := only_ask plain .currentJournal (by rfl)

theorem only_writeJournal (journal : Journal) : (writeJournal journal).Only may := by
  refine (only_ask plain (.commit journal) (by rfl)).bind fun outcome => ?_
  cases outcome <;> trivial

theorem only_confirmResult (hash : HashText) (result : Confirmation) :
    (confirmResult hash result).Only may :=
  (only_currentJournal plain).bind fun _ => only_writeJournal plain _

theorem only_replaceAction (other : ActionKey) (replacement : Transaction) :
    (replaceAction other replacement).Only may := by
  refine (only_currentJournal plain).bind fun journal => ?_
  split
  · exact only_writeJournal plain _
  · exact (only_ask plain (.hold _) (by rfl)).bind fun _ => trivial

theorem only_retireAction (other : ActionKey) (gasLimit : Option U64) :
    (retireAction other gasLimit).Only may := by
  refine (only_currentJournal plain).bind fun journal => ?_
  split
  · exact only_writeJournal plain _
  · trivial

theorem only_canonical (receipt : Receipt) : (canonical receipt).Only may := by
  refine (Program.only_orFail _ _).bind fun number => ?_
  refine (only_need plain _ _ _ (by rfl)).bind fun found => ?_
  exact (Program.only_orFail _ _).bind fun _ => trivial

theorem only_findReceipt (hash : Digest) : (findReceipt hash).Only may := by
  refine (only_need plain _ _ _ (by rfl)).bind fun found => ?_
  cases found with
  | none => trivial
  | some receipt => exact (Program.only_ensure _ _).bind fun _ => trivial

theorem only_attemptReceipt (attempt : EvmTransaction) : (attemptReceipt attempt).Only may := by
  refine (only_currentJournal plain).bind fun journal => ?_
  split
  · refine (Program.only_ensure _ _).bind fun _ => ?_
    refine (only_canonical plain _).bind fun stands => ?_
    split
    · trivial
    · exact only_findReceipt plain _
  · exact only_findReceipt plain _

theorem only_included (attempts : List EvmTransaction) : (included attempts).Only may :=
  .firstSome (only_attemptReceipt plain) attempts

theorem only_settleReceipt {otherwise : Deploy Receipt} (policy : EvmConfirmationPolicy)
    (receipt : Receipt) (rest : otherwise.Only may) :
    (settleReceipt policy receipt otherwise).Only may := by
  refine (Program.only_orFail _ _).bind fun block => ?_
  refine (only_attemptValue _).bind fun target => ?_
  refine (only_need plain _ _ _ (by rfl)).bind fun found => ?_
  refine (Program.only_orFail _ _).bind fun head => ?_
  split
  · refine (only_canonical plain _).bind fun stands => ?_
    refine (Program.only_ensure _ _).bind fun _ => ?_
    exact (only_confirmResult plain _ _).bind fun _ => trivial
  · exact rest

theorem only_waitReceipt (other : ActionKey) (policy : EvmConfirmationPolicy) (rounds : Nat)
    (receipt : Receipt) :
    (waitReceipt other policy rounds receipt).Only may := by
  induction rounds generalizing receipt with
  | zero => exact only_settleReceipt plain _ _ trivial
  | succ rounds ih =>
    refine only_settleReceipt plain _ _ ?_
    refine (only_ask plain .sleep (by rfl)).bind fun _ => ?_
    refine (only_need plain _ _ _ (by rfl)).bind fun found => ?_
    refine (Program.only_orFail _ _).bind fun again => ?_
    exact (Program.only_ensure _ _).bind fun _ => ih again

theorem only_waitConfirmed (other : ActionKey) (policy : EvmConfirmationPolicy)
    (receipt : Receipt) :
    (waitConfirmed other policy receipt).Only may := by
  refine (only_ask plain .patience (by rfl)).bind fun rounds => ?_
  refine (only_waitReceipt plain _ _ _ _).bind fun receipt => ?_
  exact (Program.only_ensure _ _).bind fun _ => trivial

theorem only_broadcastEvm (other : ActionKey) (saved : EvmTransaction)
    (sends : may (.sendRawTransaction saved.raw)) :
    (broadcastEvm other saved).Only may := by
  refine (only_need plain _ _ _ (by rfl)).bind fun known => ?_
  split
  · trivial
  · refine Program.Only.bind ⟨sends, fun _ => trivial⟩ fun sent => ?_
    exact (Program.only_orFail _ _).bind fun hash => Program.only_ensure _ _

theorem only_awaitInclusion (policy : EvmConfirmationPolicy) (attempts : List EvmTransaction)
    (rounds : Nat) (waits : may (.waitInclusion key)) :
    (awaitInclusion key policy attempts rounds).Only may := by
  induction rounds with
  | zero =>
    refine (only_included plain attempts).bind fun found => ?_
    cases found with
    | some receipt => exact only_waitConfirmed plain _ _ _
    | none => trivial
  | succ rounds ih =>
    refine (only_included plain attempts).bind fun found => ?_
    cases found with
    | some receipt => exact only_waitConfirmed plain _ _ _
    | none => exact Program.Only.bind ⟨waits, fun _ => trivial⟩ fun _ => ih

variable (lib) (session)

theorem only_bumpEvm (scope : Scope) (other : ActionKey) (saved : EvmTransaction) :
    (bumpEvm lib session scope other saved).Only may := by
  refine (Program.only_orFail _ _).bind fun old => ?_
  refine (Program.only_orFail _ _).bind fun signer => ?_
  refine (Program.only_ensure _ _).bind fun _ => ?_
  refine (only_need plain _ _ _ (by rfl)).bind fun gasPrice => ?_
  refine (only_attemptValue _).bind fun request => ?_
  refine (only_need plain _ _ _ (by rfl)).bind fun envelope => ?_
  refine (only_check _).bind fun _ => ?_
  refine (only_currentJournal plain).bind fun journal => ?_
  refine (only_check _).bind fun _ => ?_
  refine (only_need plain _ _ _ (by rfl)).bind fun balance => ?_
  refine (Program.only_ensure _ _).bind fun _ => ?_
  refine (only_ask plain (.confirm _) (by rfl)).bind fun approved => ?_
  split
  · exact (only_replaceAction plain _ _).bind fun _ => trivial
  · trivial

theorem only_resumeEvm (scope : Scope) (saved : EvmTransaction) (intent : Digest)
    (sends : ∀ raw, may (.sendRawTransaction raw)) (waits : may (.waitInclusion key)) :
    (resumeEvm lib session scope saved intent key).Only may := by
  refine (Program.only_ensure _ _).bind fun _ => ?_
  refine (only_currentJournal plain).bind fun journal => ?_
  refine (only_included plain _).bind fun found => ?_
  cases found with
  | some receipt => exact only_waitConfirmed plain _ _ _
  | none =>
    refine (only_need plain _ _ _ (by rfl)).bind fun current => ?_
    refine (Program.only_ensure _ _).bind fun _ => ?_
    have latest : (latestAttempts lib session scope key saved
          (competingAttempts journal key saved)).Only may := by
      unfold latestAttempts
      split
      · exact (only_bumpEvm _ _ plain _ _ _).bind fun _ => trivial
      · trivial
    refine latest.bind fun attempts => ?_
    refine (Program.only_orFail _ _).bind fun last => ?_
    refine (only_broadcastEvm plain _ _ (sends _)).bind fun _ => ?_
    exact (only_ask plain .patience (by rfl)).bind fun rounds => only_awaitInclusion plain _ _ _ waits

theorem only_lookupFirst (lcd : String) (hashes : List Digest) :
    (lookupFirst lcd hashes).Only may := by
  refine .firstSome (fun hash => ?_) hashes
  refine (only_need plain _ _ _ (by rfl)).bind fun found => ?_
  cases found with
  | none => trivial
  | some response =>
    refine Program.Only.bind ?_ fun _ => trivial
    refine (Program.only_ensure _ _).bind fun _ => ?_
    refine (Program.only_orFail _ _).bind fun height => ?_
    refine (Program.only_ensure _ _).bind fun _ => ?_
    refine (Program.only_orFail _ _).bind fun code => ?_
    refine (Program.only_ensure _ _).bind fun _ => ?_
    exact (only_confirmResult plain _ _).bind fun _ => only_attemptValue _

theorem only_confirmed (lcd : String) (saved : CosmosTransaction) (other : ActionKey) :
    (confirmed lib session lcd saved other).Only may := by
  refine (only_currentJournal plain).bind fun journal => ?_
  refine (only_attemptValue _).bind fun scan => ?_
  cases scan with
  | cached response => exact (only_attemptValue _).bind fun _ => trivial
  | pending hashes =>
    refine (only_lookupFirst plain _ _).bind fun found => ?_
    cases found with
    | some response => trivial
    | none =>
      have archive : (recoveryLcd session).Only may := by
        unfold recoveryLcd
        split
        · trivial
        · refine (only_need plain _ _ _ (by rfl)).bind fun network => ?_
          exact (Program.only_ensure _ _).bind fun _ => trivial
      refine archive.bind fun node => ?_
      cases node with
      | none => trivial
      | some node => exact only_lookupFirst plain _ _

theorem only_resumeCosmos (lcd : String) (saved : CosmosTransaction) (other : ActionKey) :
    (resumeCosmos lib session lcd saved other).Only may := by
  have polls : ∀ rounds, (pollConfirmed lib session lcd saved other rounds).Only
        may := by
    intro rounds
    induction rounds with
    | zero => trivial
    | succ rounds ih =>
      refine (only_confirmed _ _ plain _ _ _).bind fun found => ?_
      cases found with
      | some response => trivial
      | none => exact (only_ask plain .sleep (by rfl)).bind fun _ => ih
  refine (only_confirmed _ _ plain _ _ _).bind fun found => ?_
  cases found with
  | some response => trivial
  | none =>
    refine (only_check _).bind fun _ => ?_
    refine (only_need plain _ _ _ (by rfl)).bind fun account => ?_
    refine (Program.only_ensure _ _).bind fun _ => ?_
    refine (only_ask plain (.broadcastTx _ _) (by rfl)).bind fun accepted => ?_
    split
    · exact polls 10
    · trivial

theorem only_bumpCosmos (lcd : String) (other : ActionKey) (saved : CosmosTransaction) :
    (bumpCosmos lib session lcd other saved).Only may := by
  refine (only_confirmed _ _ plain _ _ _).bind fun found => ?_
  cases found with
  | some response => trivial
  | none =>
    refine (only_need plain _ _ _ (by rfl)).bind fun account => ?_
    refine (Program.only_ensure _ _).bind fun _ => ?_
    refine (Program.only_ensure _ _).bind fun _ => ?_
    refine (only_ask plain .currentState (by rfl)).bind fun state => ?_
    refine (only_attemptValue _).bind fun mnemonic => ?_
    refine (Program.only_orFail _ _).bind fun signer => ?_
    refine (Program.only_orFail _ _).bind fun amount => ?_
    refine (only_attemptValue _).bind fun replacement => ?_
    refine (only_attemptValue _).bind fun details => ?_
    refine (only_currentJournal plain).bind fun journal => ?_
    refine (only_check _).bind fun _ => ?_
    refine (only_attemptValue _).bind fun funds => ?_
    refine (Program.only_ensure _ _).bind fun _ => ?_
    refine (only_need plain _ _ _ (by rfl)).bind fun _ => ?_
    refine (only_need plain _ _ _ (by rfl)).bind fun _ => ?_
    refine (only_ask plain (.confirm _) (by rfl)).bind fun approved => ?_
    split
    · refine (only_replaceAction plain _ _).bind fun _ => ?_
      exact (only_resumeCosmos _ _ plain _ _ _).bind fun _ => trivial
    · trivial

theorem only_retryFailed (saved : Transaction) (lcd : String) :
    (retryFailed lib session key saved lcd).Only may := by
  have proves : (proveFailure lib session key saved lcd).Only may := by
    cases saved with
    | evm saved =>
      refine (only_need plain _ _ _ (by rfl)).bind fun chainId => ?_
      refine (Program.only_ensure _ _).bind fun _ => ?_
      refine (only_check _).bind fun _ => ?_
      refine (only_currentJournal plain).bind fun journal => ?_
      refine (only_check _).bind fun _ => ?_
      refine (only_check _).bind fun _ => ?_
      refine (only_included plain _).bind fun found => ?_
      refine (Program.only_orFail _ _).bind fun receipt => ?_
      refine (Program.only_ensure _ _).bind fun _ => ?_
      refine (only_ask plain .patience (by rfl)).bind fun rounds => ?_
      refine (only_waitReceipt plain _ _ _ _).bind fun receipt => ?_
      exact (Program.only_ensure _ _).bind fun _ => trivial
    | cosmos saved =>
      refine (Program.only_ensure _ _).bind fun _ => ?_
      refine (only_confirmed _ _ plain _ _ _).attempt.bind fun _ => ?_
      refine (only_currentJournal plain).bind fun journal => ?_
      refine (only_attemptValue _).bind fun hash => ?_
      refine (only_need plain _ _ _ (by rfl)).bind fun account => ?_
      exact (Program.only_ensure _ _).bind fun _ => trivial
  unfold retryFailed
  split
  · refine (only_ask plain .currentState (by rfl)).bind fun state => ?_
    refine (only_check _).bind fun _ => ?_
    refine proves.bind fun _ => ?_
    refine (only_ask plain (.confirm _) (by rfl)).bind fun approved => ?_
    split
    · exact (only_retireAction plain _ _).bind fun _ => trivial
    · trivial
  · trivial

end Calls

theorem only_reconcileAction (lib : Platform) (session : Session) (lcd : String)
    (action : ActionKey × Transaction) :
    (reconcileAction lib session lcd action).Only (WaitsFor action.1) := by
  have plain : ∀ op : Call, op.plain = true → WaitsFor action.1 op := by
    intro op quiet other waits
    cases op with
    | waitInclusion key => cases quiet
    | _ => cases waits
  have sends : ∀ raw, WaitsFor action.1 (.sendRawTransaction raw) := by
    intro raw other waits
    cases waits
  have waits : WaitsFor action.1 (.waitInclusion action.1) := by
    intro other same
    cases same
    rfl
  refine (only_ask plain .currentState (by rfl)).bind fun state => ?_
  refine (only_attemptValue _).bind fun signer => ?_
  refine (only_retryFailed lib session plain _ _).bind fun retired => ?_
  split
  · trivial
  · obtain ⟨key, saved⟩ := action
    cases saved with
    | evm saved =>
      refine Program.Only.bind ?_ fun _ => trivial
      exact (only_resumeEvm lib session plain _ _ _ sends waits).bind fun _ => trivial
    | cosmos saved =>
      show (reconcileCosmos lib session key (.cosmos saved) lcd).Only (WaitsFor key)
      simp only [reconcileCosmos]
      split
      · exact only_bumpCosmos lib session plain _ _ _
      · exact (only_resumeCosmos lib session plain _ _ _).bind fun _ => trivial

end Axe.Hardened

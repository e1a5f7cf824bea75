import Axe.HardenedGatewayContracts

namespace Axe.Hardened

/-!
# Contracts of the runner

A run recovers what is recorded, and then goes from stage to stage.  The steps
from the checkpoint on are carried out only if this run or an earlier one had
the go-ahead.
-/

section Checks

variable {lib : Platform} {honest : Prop} {files : Files} {plan : Plan}
variable {count : Nat} {pinned : Option Address} {launches : List Launched}

theorem safe_resolveConfirmations (options : Options) :
    Safe lib honest files plan count pinned launches
      (resolveConfirmations options) := by
  unfold resolveConfirmations
  split
  · exact .done _
  · refine .bind (.need fun _ _ _ => rfl) fun saved => ?_
    split
    · exact .done _
    · exact .done _

theorem safe_persistConfirmations (policy : EvmConfirmationPolicy) :
    Safe lib honest (Opened lib honest) plan count pinned launches
      (persistConfirmations policy) :=
  .amend fun _ => ⟨rfl, rfl, rfl, rfl, rfl, rfl, rfl⟩

theorem safe_commitInputs (fingerprintInputs : Bytes) :
    Safe lib honest (Opened lib honest) plan count pinned launches
      (commitInputs lib fingerprintInputs) := by
  refine .bind .currentJournal fun journal => ?_
  split
  · exact .done ()
  · refine .bind (.inquire _) fun bytes => ?_
    exact .amend fun _ => ⟨rfl, rfl, rfl, rfl, rfl, rfl, rfl⟩

theorem safe_keepProtocols (observed : Map String ProtocolIdentity) :
    Safe lib honest (Opened lib honest) plan count pinned launches
      (keepProtocols observed) :=
  .amend fun _ => ⟨rfl, rfl, rfl, rfl, rfl, rfl, rfl⟩

theorem safe_approveProtocols (observed : Map String ProtocolIdentity) :
    Safe lib honest (Opened lib honest) plan count pinned launches
      (approveProtocols observed) := by
  refine .bind .currentJournal fun journal => ?_
  split
  · exact .done ()
  · split
    · exact safe_keepProtocols observed
    · refine .check fun _ => .bind (.askOperator _) fun accepted => ?_
      split
      · exact safe_keepProtocols observed
      · exact .fail _

theorem safe_addressIf (applies : Bool) (view : View) :
    Safe lib honest files plan count pinned launches (addressIf applies view) := by
  unfold addressIf
  split
  · exact .bind (.inquire _) fun _ => .done _
  · exact .done _

theorem safe_signerHashIf (applies : Bool) (address : Address) :
    Safe lib honest files plan count pinned launches
      (signerHashIf applies address) := by
  unfold signerHashIf
  split
  · exact .bind (.inquire _) fun _ => .done _
  · exact .done _

theorem safe_observe (name : String) (address : Address) :
    Safe lib honest files plan count pinned launches
      (observe lib name address) := by
  refine .bind (.inquire _) fun _ => .ensure fun _ => ?_
  refine .bind (safe_addressIf _ _) fun _ => .bind (safe_addressIf _ _) fun _ => ?_
  refine .bind (safe_addressIf _ _) fun _ => .bind (safe_signerHashIf _ _) fun _ => ?_
  exact .done _

theorem safe_observeAll (targets : List (String × String × Address))
    (found : Map String ContractEvidence) :
    Safe lib honest files plan count pinned launches
      (observeAll lib targets found) := by
  induction targets generalizing found with
  | nil => exact .done found
  | cons target rest ih => exact .bind (safe_observe _ _) fun evidence => ih _

theorem safe_snapshotEvidence : Safe lib honest files plan count pinned launches
      (snapshotEvidence lib) :=
  .bind (.inquire .configuredContracts) fun _ => .currentState fun _ _ => safe_observeAll _ _

theorem safe_evidenceCheck : Safe lib honest files plan count pinned launches (evidenceCheck lib) :=
  .bind .currentJournal fun _ => .currentState fun _ _ =>
    .bind safe_snapshotEvidence fun _ => .lastCheck _

theorem safe_captureEvidence : Safe lib honest (Opened lib honest) plan count pinned launches
      (captureEvidence lib) := by
  refine .bind safe_snapshotEvidence fun evidence => ?_
  refine .readJournal fun here world ready => ?_
  refine keeps_currentState fun _ _ => keeps_check (fun _ => ?_) (fun _ => ready.atStage)
  exact keeps_amendment ready ⟨rfl, rfl, rfl, rfl, rfl, rfl, rfl⟩

theorem safe_checkWhen {program : Deploy Unit}
    (safe : Safe lib honest files plan count pinned launches program) (applies : Bool) :
    Safe lib honest files plan count pinned launches
      (checkWhen applies program) := by
  unfold checkWhen
  split
  · exact safe
  · exact .done ()

theorem safe_checkPostconditions (session : Session) (completed : Option StepName) :
    Safe lib honest (Opened lib honest) plan count pinned launches
      (checkPostconditions lib session completed) := by
  refine .currentState fun _ _ => .bind (safe_checkWhen (.review _) _) fun _ => ?_
  refine .bind (safe_checkWhen (safe_verifyGateway session) _) fun _ => ?_
  refine .bind (safe_checkWhen (.review _) _) fun _ => ?_
  exact .bind (safe_checkWhen (.review _) _) fun _ => safe_checkWhen (.review _) _

theorem safe_checkJournalPresence :
    Safe lib honest files plan count pinned launches checkJournalPresence :=
  .currentState fun _ _ => .bind (.need fun _ _ _ => rfl) fun _ => .lastCheck _

theorem safe_rememberFingerprint (fingerprint : Digest) :
    Safe lib honest files plan count pinned launches
      (rememberFingerprint fingerprint) :=
  .currentState fun _ fits =>
    .bind (.setState ⟨fits.hasPlan, fits.staged, fits.predicted⟩) fun _ => .saveState

theorem safe_preflight : Safe lib honest files plan count pinned launches preflight :=
  .currentState fun _ _ => .ensure fun _ => .check fun _ => .inquire _

theorem validateState_ok {state configured : State}
    (valid : validateState lib state = .ok configured) :
    ∃ gateway, configured = { state with gatewayDeployer := gateway } := by
  simp only [validateState] at valid
  generalize (configurationErrors lib state ++ _).isEmpty = passed at valid
  cases passed with
  | true =>
    cases valid
    exact ⟨_, rfl⟩
  | false => cases valid

theorem safe_configure : Safe lib honest files plan count pinned launches (configure lib) := by
  refine .currentState fun state fits => .bind (.ask fun _ _ _ => rfl) fun environment => ?_
  refine .attemptValue fun configured valid => .bind (.review _) fun _ => ?_
  obtain ⟨gateway, rfl⟩ := validateState_ok valid
  exact .setState ⟨fits.hasPlan, fits.staged, fits.predicted⟩

end Checks

def PausesAt (plan : Plan) (stop : Stop) (here : Station) : Prop :=
  ∀ message, stop = .paused message → ∃ count pinned, here.At plan count pinned

theorem Station.At.pauses {plan : Plan} {count : Nat} {pinned : Option Address} {here : Station}
    (atStage : here.At plan count pinned) (stop : Stop) :
    PausesAt plan stop here :=
  fun _ _ => ⟨count, pinned, atStage⟩

theorem pausesAt_failed (plan : Plan) (message : String) (here : Station) :
    PausesAt plan (.failed message) here := by
  intro _ isPause
  cases isPause

section Recovery

variable {lib : Platform} {honest : Prop} {session : Session}
variable {count : Nat} {pinned : Option Address} {launches : List Launched}
variable {here : Station} {world : Chains lib}

structure Lists (actions : List (ActionKey × Transaction)) (journal : Journal) : Prop where
  current : ∀ action ∈ actions, journal.get action.1 = some action.2
  distinct : (actions.map Prod.fst).Nodup

theorem lists_ordered (journal : Journal) : Lists journal.ordered journal := by
  have sorted : journal.ordered.Perm
        (journal.actions.entries.map fun entry => (entry.1, entry.2)) :=
    List.perm_insertionSort _ _
  constructor
  · intro action member
    obtain ⟨⟨key, transaction⟩, listed, rfl⟩ := List.mem_map.mp (sorted.mem_iff.mp member)
    exact AList.mem_lookup_iff.mpr listed
  · refine (sorted.map Prod.fst).nodup_iff.mpr ?_
    rw [List.map_map]
    exact journal.actions.nodupKeys

theorem Lists.touched {action : ActionKey × Transaction} {rest : List (ActionKey × Transaction)}
    {after : Station} (lists : Lists (action :: rest) here.memory)
    (touched : here.Touches action.1 after) :
    Lists rest after.memory := by
  have distinct := List.nodup_cons.mp lists.distinct
  refine ⟨?_, distinct.2⟩
  intro other member
  have different : other.1 ≠ action.1 := by
    intro same
    exact distinct.1 (same ▸ List.mem_map_of_mem member)
  rw [(touched.others other.1 different).1]
  exact lists.current other (List.mem_cons_of_mem _ member)

theorem keeps_reconcilePass {lcd : String} {actions : List (ActionKey × Transaction)}
    (lists : Lists actions here.memory)
    (ready : Ready.Open lib honest session.plan count pinned launches here) :
    Keeps lib honest session.plan (stagedPolicy lib session.plan)
      (reconcilePass lib session lcd actions)
      (fun _ after _ =>
        Ready.Open lib honest session.plan count pinned launches after)
      (fun _ after _ => after.At session.plan count pinned) here world := by
  let holds : List (ActionKey × Transaction) → Station → Chains lib → Prop := fun left now _ =>
      Ready.Open lib honest session.plan count pinned launches now ∧ Lists left now.memory
  have step : ∀ action rest now moved, holds (action :: rest) now moved →
        Keeps lib honest session.plan (stagedPolicy lib session.plan)
          (reconcileAction lib session lcd action)
          (fun _ after later => holds rest after later)
          (fun _ after _ => after.At session.plan count pinned) now moved := by
    rintro action rest now moved ⟨readyNow, listsNow⟩
    refine keeps_currentState fun _ _ => ?_
    refine keeps_attemptValue (fun signer _ => ?_) (fun _ => readyNow.atStage)
    refine (keeps_ready (keeps_recoverAction readyNow.synced
      (fun trusted => (readyNow.sound trusted).memory)
      (listsNow.current action List.mem_cons_self))
      (fun _ _ _ touched => touched.synced) readyNow).mono ?_
    rintro _ after _ ⟨still, touched, _⟩
    exact ⟨still, listsNow.touched touched⟩
  exact (Meets.each step actions ⟨ready, lists⟩).weaken
    (fun _ _ _ ends => ends.1) (fun _ _ _ ends => ends)

theorem safe_recoverSubmission (step : Step) : SafeStep lib honest session count pinned launches
      (recoverSubmission lib session step) := by
  unfold recoverSubmission
  split
  · split
    · exact .done false
    · exact safe_governanceRecover _ _
  · exact .done false

end Recovery

section Stages

variable {lib : Platform} {honest : Prop} {session : Session}
variable {count : Nat} {pinned : Option Address} {launches : List Launched}
variable {here : Station} {world : Chains lib}

theorem keeps_checkActivation {step : StepName} (isNext : step.place = count)
    (passed : StepName.waitForVerifierSet.place < count → Activated launches)
    (given : session.options.activate = true →
      StepName.waitForVerifierSet.place ≤ count → Activated launches)
    (ready : Ready.Open lib honest session.plan count pinned launches here) :
    Keeps lib honest session.plan (stagedPolicy lib session.plan)
      (checkActivation session.options.activate step)
      (fun _ after _ =>
        Ready.Open lib honest session.plan count pinned launches after ∧ Cleared count launches)
      (fun _ after _ => after.At session.plan count pinned) here world := by
  unfold checkActivation
  split
  · refine keeps_need (fun _ _ _ => rfl) ?_ (fun _ _ => ready.atStage)
    intro _ _ _ _ _ _
    exact ready.atStage
  · rename_i begun
    refine ⟨ready, fun reached => ?_⟩
    rcases Nat.lt_or_ge StepName.waitForVerifierSet.place count with later | notLater
    · exact passed later
    · have isCheckpoint : step = .waitForVerifierSet := by
        have same : step.place = StepName.waitForVerifierSet.place := by omega
        have found := stepOrder_place step
        rw [same, stepOrder_place] at found
        exact (Option.some.inj found).symm
      refine given ?_ reached
      cases activated : session.options.activate with
      | true => rfl
      | false => exact (begun ⟨isCheckpoint, activated⟩).elim

theorem keeps_completeStep (isPending : count < here.context.steps.length)
    (cleared : Cleared count launches)
    (ready : Ready.Open lib honest session.plan count pinned launches here) :
    Keeps lib honest session.plan (stagedPolicy lib session.plan)
      (completeStep count)
      (fun _ after _ =>
        Ready.Open lib honest session.plan (count + 1)
          here.context.predictedGatewayAddress launches after)
      (fun stop after _ => PausesAt session.plan stop after) here world := by
  have fits : Fits session.plan (count + 1) here.context.predictedGatewayAddress
        (markStepCompleted here.context count) :=
    ⟨ready.atStage.context.hasPlan, ready.atStage.context.staged.complete isPending, fun _ => rfl⟩
  obtain ⟨saved, isSaved, savedFits⟩ := ready.atStage.saved
  refine keeps_currentState fun _ _ => ?_
  refine Meets.perform_bind fun _ _ _ _ => ⟨.update _ trivial, ?_⟩
  refine Meets.perform_bind fun _ _ outcome _ => ?_
  refine ⟨.save outcome ⟨saved, count, isSaved, savedFits.staged, fits.hasPlan, ?_,
    .inr ⟨fits.staged, ready.launches ▸ cleared⟩⟩, ?_⟩
  · intro late
    exact (ready.atStage.context.predicted late).trans (savedFits.predicted late).symm
  · cases outcome with
    | ok => exact ⟨⟨fits, _, rfl, fits.stripped⟩, ready.files, ready.launches⟩
    | failedBefore => exact pausesAt_failed _ _ _
    | failedAfter => exact pausesAt_failed _ _ _

theorem keeps_advance {step : Step} (placed : here.context.steps[count]? = some step)
    (passed : StepName.waitForVerifierSet.place < count → Activated launches)
    (given : session.options.activate = true →
      StepName.waitForVerifierSet.place ≤ count → Activated launches)
    (ready : Ready.Open lib honest session.plan count pinned launches here) :
    Keeps lib honest session.plan (stagedPolicy lib session.plan)
      (advance lib session count step)
      (fun _ after _ => Cleared count launches ∧ ∃ pinned,
          Ready.Open lib honest session.plan (count + 1) pinned launches after)
      (fun stop after _ => PausesAt session.plan stop after) here world := by
  have staged := ready.atStage.context.staged
  have isNext : step.name.place = count := staged.place placed
  have regular := staged.regular (List.mem_of_getElem? placed)
  have bound : count < stepOrder.length := by
    rw [← staged.length]
    exact (List.getElem?_eq_some_iff.mp placed).1
  have stops : ∀ (stop : Stop) (after : Station) (moved : Chains lib),
        after.At session.plan count pinned → PausesAt session.plan stop after :=
    fun stop _ _ atStage => atStage.pauses stop
  refine (keeps_checkActivation isNext passed given ready).andThen stops ?_
  rintro _ begun _ ⟨readyBegun, cleared⟩
  refine (safe_recoverSubmission step begun _ readyBegun).andThen stops ?_
  intro recovered resumed _ readyResumed
  refine (safe_checkWhen (.review _) (!recovered) resumed _ readyResumed).andThen stops ?_
  intro _ shown _ readyShown
  refine keeps_currentState fun moved _ => ?_
  refine keeps_attemptValue (fun signer isSigner => ?_) (fun _ => pausesAt_failed _ _ _)
  have carried : Keeps lib honest session.plan (stagedPolicy lib session.plan)
        (carryOut lib session ⟨step.name, signer⟩ count step recovered)
        (fun _ after _ =>
          Ready.Open lib honest session.plan count pinned launches after)
        (fun _ after _ => after.At session.plan count pinned) shown moved := by
    unfold carryOut
    split
    · exact readyShown
    · exact keeps_executeStep regular isNext rfl isSigner cleared readyShown
  refine carried.andThen stops ?_
  intro _ done _ readyDone
  refine (safe_checkPostconditions session _ done _ readyDone).andThen stops ?_
  intro _ checked _ readyChecked
  refine (safe_captureEvidence checked _ readyChecked).andThen stops ?_
  intro _ captured _ readyCaptured
  have isPending : count < captured.context.steps.length := by
    rw [readyCaptured.atStage.context.staged.length]
    exact bound
  exact (keeps_completeStep isPending cleared readyCaptured).weaken
    (fun _ _ _ ends => ⟨cleared, _, ends⟩) (fun _ _ _ ends => ends)

theorem keeps_advanceAll (rounds : Nat)
    (passed : StepName.waitForVerifierSet.place < count → Activated launches)
    (given : session.options.activate = true → Activated launches)
    (ready : Ready.Open lib honest session.plan count pinned launches here) :
    Keeps lib honest session.plan (stagedPolicy lib session.plan)
      (advanceAll lib session rounds)
      (fun _ after _ => ∃ count pinned,
        Ready.Open lib honest session.plan count pinned launches after)
      (fun stop after _ => PausesAt session.plan stop after) here world := by
  induction rounds generalizing count pinned here world with
  | zero => exact ready.atStage.pauses _
  | succ rounds ih =>
    refine keeps_currentState fun _ _ => ?_
    rw [ready.atStage.context.staged.nextPendingStep]
    cases placed : here.context.steps[count]? with
    | none => exact ⟨count, pinned, ready⟩
    | some step =>
      refine (keeps_advance placed passed (fun isGiven _ => given isGiven)
        ready).seq ?_
      rintro _ after _ ⟨cleared, now, readyNow⟩
      exact ih (fun later => cleared (by omega)) readyNow

theorem keeps_execute (passed : StepName.waitForVerifierSet.place < count → Activated launches)
    (given : session.options.activate = true → Activated launches)
    (ready : Ready.Open lib honest session.plan count pinned launches here) :
    Keeps lib honest session.plan (stagedPolicy lib session.plan)
      (execute lib session)
      (fun _ _ _ => True)
      (fun stop after _ => PausesAt session.plan stop after) here world := by
  have stops : ∀ (stop : Stop) (after : Station) (moved : Chains lib),
        after.At session.plan count pinned → PausesAt session.plan stop after :=
    fun stop _ _ atStage => atStage.pauses stop
  refine keeps_currentJournal fun _ _ => ?_
  refine keeps_need (fun _ _ _ => rfl) ?_ (fun _ _ => pausesAt_failed _ _ _)
  intro _ _ _ _ config _
  refine keeps_check (fun _ => ?_) (fun _ => pausesAt_failed _ _ _)
  refine keeps_currentState fun _ _ => ?_
  refine keeps_check (fun _ => ?_) (fun _ => pausesAt_failed _ _ _)
  refine (keeps_reconcilePass (lists_ordered here.memory) ready).andThen stops ?_
  intro _ recovered _ readyRecovered
  refine (safe_evidenceCheck recovered _ readyRecovered).andThen stops ?_
  intro _ compared _ readyCompared
  refine (safe_checkPostconditions session none compared _ readyCompared).andThen stops ?_
  intro _ checked _ readyChecked
  refine keeps_currentState fun _ _ => ?_
  refine (keeps_advanceAll _ passed given readyChecked).seq ?_
  rintro _ finished _ ⟨last, pinnedLast, readyFinished⟩
  refine keeps_currentState fun _ _ => ?_
  refine Meets.ensure_bind (fun _ => ?_) (fun _ => pausesAt_failed _ _ _)
  exact (safe_verifyCompleted session finished _ readyFinished).weaken
    (fun _ _ _ _ => trivial) (fun stop _ _ atStage => atStage.pauses stop)

end Stages

section Runs

variable {lib : Platform} {honest : Prop} {plan : Plan} {options : Options}
variable {count : Nat} {pinned : Option Address} {launches : List Launched}
variable {here : Station} {world : Chains lib}

theorem keeps_openSession {fingerprint : Digest}
    (ready : Ready (Unopened lib honest) plan count pinned launches here) :
    Keeps lib honest plan (stagedPolicy lib plan)
      (loadSession fingerprint)
      (fun _ after _ => Ready.Open lib honest plan count pinned launches after)
      (fun _ after _ => after.At plan count pinned) here world := by
  have sound : honest → here.Sound lib :=
    fun trusted => ⟨(ready.files.2 trusted).1, (ready.files.2 trusted).2⟩
  have opened : Keeps lib honest plan (stagedPolicy lib plan).quiet
        (loadSession fingerprint)
        (fun _ after _ => after.Synced) (fun _ _ _ => True) here world :=
    (keeps_loadSession fingerprint ready.files.1).weaken
      (fun _ _ _ ends => ends.1) (fun _ _ _ _ => trivial)
  refine (keeps_quietly (keeps_sound opened sound)).weaken ?_ ?_
  · rintro _ after _ ⟨⟨synced, soundAfter⟩, same⟩
    exact ⟨same.atStage ready.atStage,
      ⟨synced, fun trusted => ⟨(soundAfter trusted).memory, (soundAfter trusted).disk⟩⟩,
      same.launches.trans ready.launches⟩
  · rintro _ after _ ⟨_, same⟩
    exact same.atStage ready.atStage

structure LaunchedAt (plan : Plan) (count : Nat) (options : Options)
    (launches : List Launched) : Prop where
  found : ∃ state, ⟨options, some state⟩ ∈ launches ∧ Staged plan count state.steps
  passed : StepName.waitForVerifierSet.place < count → Activated launches

theorem LaunchedAt.activated (launched : LaunchedAt plan count options launches)
    (given : options.activate = true) (reached : StepName.waitForVerifierSet.place ≤ count) :
    Activated launches := by
  obtain ⟨state, member, staged⟩ := launched.found
  refine ⟨_, member, given, state, rfl, ?_⟩
  intro step listed early
  obtain ⟨index, placed⟩ := List.mem_iff_getElem?.mp listed
  have place := staged.place placed
  exact (staged.completed placed).mpr (by omega)

theorem keeps_runWithInputs (launched : LaunchedAt plan count options launches)
    (ready : Ready (Unopened lib honest) plan count pinned launches here) :
    Keeps lib honest plan (stagedPolicy lib plan)
      (runWithInputs lib options)
      (fun _ _ _ => True)
      (fun stop after _ => PausesAt plan stop after) here world := by
  have stops : ∀ (stop : Stop) (after : Station) (moved : Chains lib),
        after.At plan count pinned → PausesAt plan stop after :=
    fun stop _ _ atStage => atStage.pauses stop
  refine keeps_currentState fun _ _ => ?_
  refine Meets.orFail_bind (fun found hasPlan => ?_) (fun _ => pausesAt_failed _ _ _)
  cases hasPlan.symm.trans ready.atStage.context.hasPlan
  refine (safe_configure here _ ready).andThen stops ?_
  intro _ configured _ readyConfigured
  refine (safe_validateProverAdmin configured _ readyConfigured).andThen stops ?_
  intro _ validated _ readyValidated
  refine (Safe.review _ validated _ readyValidated).andThen stops ?_
  intro _ permitted _ readyPermitted
  refine keeps_currentState fun _ _ => ?_
  refine keeps_check (fun activation => ?_) (fun _ => pausesAt_failed _ _ _)
  have given : options.activate = true → Activated launches := by
    intro isGiven
    rw [if_pos isGiven] at activation
    exact launched.activated isGiven
      (readyPermitted.atStage.context.staged.validateActivation_iff.mp activation)
  refine (safe_resolveConfirmations options permitted _ readyPermitted).andThen stops ?_
  intro policy resolved _ readyResolved
  refine (safe_preflight resolved _ readyResolved).andThen stops ?_
  intro checked cleared _ readyCleared
  refine (safe_checkJournalPresence cleared _ readyCleared).andThen stops ?_
  intro _ present _ readyPresent
  refine (keeps_openSession readyPresent).andThen stops ?_
  intro _ opened _ readyOpened
  refine (safe_commitInputs _ opened _ readyOpened).andThen stops ?_
  intro _ committed _ readyCommitted
  refine (safe_persistConfirmations policy committed _ readyCommitted).andThen stops ?_
  intro _ persisted _ readyPersisted
  refine (safe_rememberFingerprint _ persisted _ readyPersisted).andThen stops ?_
  intro _ remembered _ readyRemembered
  refine (safe_approveProtocols _ remembered _ readyRemembered).andThen stops ?_
  intro _ approved _ readyApproved
  exact @keeps_execute lib honest ⟨plan, options⟩ count pinned launches approved _
    launched.passed given readyApproved

/-- A saved state of some stage, and what the launches so far have to do with it. -/
structure Underway (plan : Plan) (here : Station) (saved : State) (count : Nat) : Prop where
  isSaved : here.saved = some saved
  hasPlan : saved.hardenedPlan = some plan
  staged : Staged plan count saved.steps
  passed : StepName.waitForVerifierSet.place < count → Activated here.launches

theorem keeps_reloadCommittedState {saved : State} (underway : Underway plan here saved count)
    (closed : Unopened lib honest here.memory here.disk) :
    Keeps lib honest plan (stagedPolicy lib plan) reloadCommittedState
      (fun _ after _ =>
        Ready (Unopened lib honest) plan count saved.predictedGatewayAddress
          here.launches after)
      (fun stop after _ => PausesAt plan stop after) here world := by
  refine keeps_need (fun _ _ _ => rfl) ?_ (fun _ _ => pausesAt_failed _ _ _)
  intro _ _ reply allowed found unpacked
  have isFound : found = some saved := by
    rcases allowed with missing | read
    · rw [missing] at unpacked
      cases unpacked
    · rw [read] at unpacked
      exact (Option.some.inj unpacked).symm.trans underway.isSaved
  subst isFound
  refine keeps_currentState fun _ _ => ?_
  refine Meets.ensure_bind (fun _ => ?_) (fun _ => pausesAt_failed _ _ _)
  have fits : Fits plan count saved.predictedGatewayAddress saved :=
    ⟨underway.hasPlan, underway.staged, fun _ => rfl⟩
  intro _ _ _ _
  exact ⟨.update saved trivial, ⟨fits, saved, underway.isSaved, fits⟩, closed, rfl⟩

theorem keeps_runDeployment {saved : State} (underway : Underway plan here saved count)
    (launched : LaunchedAt plan count options here.launches)
    (closed : Unopened lib honest here.memory here.disk) :
    Keeps lib honest plan (stagedPolicy lib plan)
      (runDeployment lib options)
      (fun _ _ _ => True) (fun _ _ _ => True) here world := by
  have committed : Keeps lib honest plan (stagedPolicy lib plan)
        (runCommitted lib options)
        (fun _ _ _ => True)
        (fun stop after _ => PausesAt plan stop after) here world := by
    have stops : ∀ (stop : Stop) (after : Station) (moved : Chains lib),
          after.At plan count saved.predictedGatewayAddress → PausesAt plan stop after :=
      fun stop _ _ atStage => atStage.pauses stop
    refine (keeps_reloadCommittedState underway closed).seq ?_
    intro _ reloaded _ readyReloaded
    refine (safe_checkJournalPresence reloaded _ readyReloaded).andThen stops ?_
    intro _ present _ readyPresent
    refine (Safe.review _ present _ readyPresent).andThen stops ?_
    intro _ prepared _ readyPrepared
    exact keeps_runWithInputs launched readyPrepared
  have outcomes : Keeps lib honest plan (stagedPolicy lib plan)
        ((runCommitted lib options).attempt : Deploy (Except Stop Unit))
        (fun outcome after _ =>
          ∀ stop, outcome = .error stop → PausesAt plan stop after)
        (fun _ _ _ => True) here world := by
    refine Meets.attempt (committed.weaken ?_ ?_)
    · intro _ _ _ _ _ isError
      cases isError
    · intro stop after _ pauses other isError
      cases isError
      exact pauses
  refine outcomes.andThen (fun _ _ _ _ => trivial) ?_
  intro outcome after moved pauses
  cases outcome with
  | ok _ => trivial
  | error stop =>
    cases stop with
    | failed message => trivial
    | paused message =>
      -- A pause saves the state, which is at some stage.
      obtain ⟨stage, pinned, atStage⟩ := pauses _ rfl message rfl
      refine Meets.perform_bind fun _ _ outcome _ => ?_
      refine ⟨.save outcome atStage.saves, ?_⟩
      cases outcome <;> trivial

end Runs

end Axe.Hardened

import Axe.VerificationReport

namespace Axe.Verification

/-!
# Verdicts over whole runs

A pipeline is seen here as the events that change its transactions: streamed
transactions, sweeps of the GMP API, results of Cosmos-side checks, second legs
that were found, destination observations and, at the end, the timeout pass.
Events come in any order, any number of times, and for any transactions.

The timings are stamped before the guarded transitions that may refuse them.  So
the verdicts are consistent as long as no positive result comes for a
transaction that it cannot be about.
-/

/-- The pipelines of a verification. -/
inductive Pipeline where
  | gmp (hasCosmGateway hasAxelarnetGateway : Bool)
  | its
      (target : SecondLegTarget)
      (backfillVotedTiming hasVotingVerifier : Bool)
  deriving DecidableEq

def Pipeline.isIts : Pipeline → Bool
  | .gmp _ _ => false
  | .its _ _ _ => true

def Pipeline.Creates : Pipeline → Phase → Prop
  | .gmp _ _, _ => True
  | .its _ _ _, phase => phase = .voted ∨ phase = .hubApproved

def Pipeline.enroll (pipeline : Pipeline) (input : PendingTxInput) : PendingTx :=
  match pipeline with
  | .gmp _ _ => .new input
  | .its _ _ hasVotingVerifier => normalizeStart hasVotingVerifier (.new input)

inductive CosmosCheck where
  | voted
  | routed
  | hubApproved
  deriving DecidableEq

def Pipeline.observe : Pipeline → CosmosCheck → Instant → Bool → PendingTx → PendingTx × Bool
  | .gmp hasCosmGateway _, .voted => observeCosmos .setVoted (gmpAfterVoted hasCosmGateway)
  | .gmp _ hasAxelarnetGateway, .routed =>
    observeCosmos .setRouted (gmpAfterRouted hasAxelarnetGateway)
  | .gmp _ _, .hubApproved => observeCosmos .setHubApproved .approved
  | .its _ _ _, .voted => observeCosmos .setVoted .hubApproved
  | .its _ _ _, .routed => observeCosmos .setRouted .approved
  | .its _ backfillVotedTiming _, .hubApproved => observeHubApproved backfillVotedTiming

/-- Something that changes the transactions of a pipeline. -/
inductive Event where
  | receive (input : PendingTxInput)
  | sweep (reportedFailed : Nat → Bool)
  | cosmos (check : CosmosCheck) (clock : Readings) (results : List (Nat × Bool))
  | discover (clock : Readings) (found : List (Nat × Option SecondLeg))
  | destination (clock : Readings) (observations : List DestinationObservation)

/-- What an event does to the transactions. -/
def Pipeline.apply (pipeline : Pipeline) (txs : List PendingTx) : Event → List PendingTx
  | .receive input => txs ++ [pipeline.enroll input]
  | .sweep reportedFailed => txs.mapIdx fun index tx => failFast (reportedFailed index) tx
  | .cosmos check clock results => (applyEach (pipeline.observe check) clock results txs).1
  | .discover clock found =>
    match pipeline with
    | .gmp _ _ => txs
    | .its target _ _ => (applyEach (observeSecondLeg target) clock found txs).1
  | .destination clock observations => (applyDestinationObservations clock observations txs).1

/-- The transactions after a sequence of events. -/
def Pipeline.run (pipeline : Pipeline) (batch : List PendingTxInput)
    (events : List Event) : List PendingTx :=
  events.foldl pipeline.apply (batch.map pipeline.enroll)

/-- What the timeout pass learns about each transaction that is still active. -/
structure Recheck where
  clock : Readings
  executed : Nat → Bool

/-- Give all transactions that are still active a verdict. -/
def finalizeTimedOutTxs (labels : DestinationLabels) (recheck : Recheck)
    (txs : List PendingTx) : List PendingTx :=
  txs.mapIdx fun index tx =>
    finalizeTimedOutTx labels (recheck.clock index) (recheck.executed index) tx

/-!
## Observations that fit
-/

/--
A positive Cosmos-side result fits a transaction that is active.  In the ITS
pipelines a routed message is a second leg, so there the transaction has one.
-/
def Pipeline.Fits (pipeline : Pipeline) (check : CosmosCheck) (observed : Bool)
    (tx : PendingTx) : Prop :=
  observed = true → tx.isActive = true ∧
      (pipeline.isIts = true → check = .routed → tx.secondLeg.isSome = true)

def DestinationStatus.Fits : DestinationStatus → PendingTx → Prop
  | .executed _, tx => tx.isActive = true → (tx.isPhase .approved || tx.isPhase .executed) = true
  | _, _ => True

def EachFits {Status : Type} (change : Instant → Status → PendingTx → PendingTx × Bool)
    (fits : Status → PendingTx → Prop) :
    Readings → List (Nat × Status) → List PendingTx → Prop
  | _, [], _ => True
  | clock, (index, status) :: rest, txs =>
    (∀ tx, txs[index]? = some tx → fits status tx) ∧
      EachFits change fits (fun reading => clock (reading + 1)) rest
        (updateAt (change (clock 0) status) index txs).1

def Pipeline.Admits (pipeline : Pipeline) (txs : List PendingTx) : Event → Prop
  | .receive input => pipeline.Creates input.initialPhase
  | .cosmos check clock results =>
    EachFits (pipeline.observe check) (pipeline.Fits check) clock results txs
  | .destination clock observations =>
    EachFits observeDestination DestinationStatus.Fits clock observations txs
  | _ => True

def Pipeline.AdmitsAll (pipeline : Pipeline) : List PendingTx → List Event → Prop
  | _, [] => True
  | txs, event :: rest =>
    pipeline.Admits txs event ∧ pipeline.AdmitsAll (pipeline.apply txs event) rest

/-!
## What one observation keeps
-/

def Phase.pastDiscovery : Phase → Bool
  | .routed => true
  | .approved => true
  | .executed => true
  | _ => false

/-- The state and the timing of a transaction agree. -/
structure PendingTx.Consistent (pipeline : Pipeline) (tx : PendingTx) : Prop where
  executedOk : tx.timing.executedOk = some true ↔ tx.isSucceeded = true
  notExecuted : tx.timing.executedOk = some false →
      ∃ reason, tx.state = .failed .executed (.timedOut reason)
  executedSecs : tx.isSucceeded = true → tx.timing.executedSecs.isSome = true
  secondLeg : pipeline.isIts = true → ∀ phase, tx.phase = some phase → phase.pastDiscovery = true →
        tx.secondLeg.isSome = true

namespace PendingTx

variable {pipeline : Pipeline} {tx : PendingTx} {phase : Phase}

theorem exists_phase_of_isActive (active : tx.isActive = true) :
    ∃ phase, tx.state = .active phase := by
  unfold isActive at active
  split at active
  · rename_i phase shape
    exact ⟨phase, shape⟩
  · cases active

@[simp] theorem isPhase_eq_true : tx.isPhase phase = true ↔ tx.state = .active phase := by
  simp [isPhase]

theorem Consistent.executedOk_of_active (consistent : tx.Consistent pipeline)
    (active : tx.state = .active phase) :
    tx.timing.executedOk = none := by
  cases result : tx.timing.executedOk with
  | none => rfl
  | some ok =>
    cases ok with
    | true =>
      have succeeded := consistent.executedOk.mp result
      simp [isSucceeded, active] at succeeded
    | false =>
      obtain ⟨reason, failed⟩ := consistent.notExecuted result
      rw [active] at failed
      cases failed

theorem Consistent.secondLeg_of_active (consistent : tx.Consistent pipeline)
    (active : tx.state = .active phase) :
    pipeline.isIts = true → phase.pastDiscovery = true → tx.secondLeg.isSome = true := by
  intro its past
  apply consistent.secondLeg its phase _ past
  simp [PendingTx.phase, active]

theorem consistent_of_unexecuted (unexecuted : tx.timing.executedOk = none)
    (unsettled : tx.isSucceeded = false)
    (leg : pipeline.isIts = true → ∀ phase, tx.phase = some phase → phase.pastDiscovery = true →
          tx.secondLeg.isSome = true) :
    tx.Consistent pipeline := by
  constructor
  · simp [unexecuted, unsettled]
  · simp [unexecuted]
  · simp [unsettled]
  · exact leg

theorem consistent_of_active (active : tx.state = .active phase)
    (unexecuted : tx.timing.executedOk = none)
    (leg : pipeline.isIts = true → phase.pastDiscovery = true → tx.secondLeg.isSome = true) :
    tx.Consistent pipeline := by
  apply consistent_of_unexecuted unexecuted
  · simp [isSucceeded, active]
  · intro its waiting inPhase past
    simp only [PendingTx.phase, active, Option.some.injEq] at inPhase
    subst inPhase
    exact leg its past

theorem consistent_of_succeeded {recovered : Bool} (succeeded : tx.state = .succeeded recovered)
    (executed : tx.timing.executedOk = some true) (stamped : tx.timing.executedSecs.isSome = true) :
    tx.Consistent pipeline := by
  constructor
  · simp [executed, isSucceeded, succeeded]
  · simp [executed]
  · intro _
    exact stamped
  · intro _ waiting inPhase
    simp [PendingTx.phase, succeeded] at inPhase

end PendingTx

/-- A change that leaves verdicts alone and keeps state and timing in agreement. -/
structure Advances (pipeline : Pipeline) (first second : PendingTx) : Prop where
  settled : first.isActive = false → second = first
  consistent : first.Consistent pipeline → second.Consistent pipeline

namespace Advances

variable {pipeline : Pipeline} {first second third : PendingTx}

theorem refl (tx : PendingTx) : Advances pipeline tx tx :=
  ⟨fun _ => rfl, fun consistent => consistent⟩

theorem trans (before : Advances pipeline first second) (after : Advances pipeline second third) :
    Advances pipeline first third := by
  constructor
  · intro settled
    have same := before.settled settled
    subst same
    exact after.settled settled
  · intro consistent
    exact after.consistent (before.consistent consistent)

theorem of_active {phase : Phase} (active : first.state = .active phase)
    (consistent : first.Consistent pipeline → second.Consistent pipeline) :
    Advances pipeline first second := by
  constructor
  · intro settled
    simp [PendingTx.isActive, active] at settled
  · exact consistent

end Advances

section Changes

variable {pipeline : Pipeline} {tx : PendingTx} {now : Instant}

theorem PendingTx.transitionTo_cases (tx : PendingTx) (next : Phase) :
    (tx.transitionTo next).1 = tx ∨
      ∃ current, tx.state = .active current ∧ current.canTransitionTo next = true ∧
        (tx.transitionTo next).1 = { tx with state := .active next } := by
  unfold PendingTx.transitionTo
  split
  · rename_i current active
    by_cases legal : current.canTransitionTo next = true
    · right
      refine ⟨current, active, legal, ?_⟩
      simp [legal]
    · left
      simp [legal]
  · exact .inl rfl

/--
Stamping a time and moving on keeps an active transaction consistent, if the
stamp is not that of the execution and the next phase has what it needs.
-/
theorem advances_stamped
    {phase next : Phase}
    {timing : AmplifierTiming}
    (active : tx.state = .active phase)
    (sameResult : timing.executedOk = tx.timing.executedOk)
    (leg : pipeline.isIts = true → next.pastDiscovery = true → tx.secondLeg.isSome = true) :
    Advances pipeline tx ({ tx with timing := timing }.transitionTo next).1 := by
  apply Advances.of_active active
  intro consistent
  have unexecuted : timing.executedOk = none := by
    rw [sameResult]
    exact consistent.executedOk_of_active active
  rcases PendingTx.transitionTo_cases { tx with timing := timing } next with
    same | ⟨current, _, _, moved⟩
  · rw [same]
    exact PendingTx.consistent_of_active active unexecuted (consistent.secondLeg_of_active active)
  · rw [moved]
    exact PendingTx.consistent_of_active rfl unexecuted leg

variable {observed : Bool}

theorem advances_observeCosmos {setTiming : Secs → AmplifierTiming → AmplifierTiming} {next : Phase}
    (keepsResult : ∀ secs timing, (setTiming secs timing).executedOk = timing.executedOk)
    (active : observed = true → tx.isActive = true)
    (leg : observed = true → pipeline.isIts = true → next.pastDiscovery = true →
        tx.secondLeg.isSome = true) :
    Advances pipeline tx (observeCosmos setTiming next now observed tx).1 := by
  unfold observeCosmos
  cases observed with
  | false => exact Advances.refl tx
  | true =>
    obtain ⟨phase, waiting⟩ := PendingTx.exists_phase_of_isActive (active rfl)
    exact advances_stamped waiting (keepsResult _ _) (leg rfl)

theorem advances_observeHubApproved {backfill : Bool}
    (active : observed = true → tx.isActive = true) :
    Advances pipeline tx (observeHubApproved backfill now observed tx).1 := by
  unfold observeHubApproved
  cases observed with
  | false => exact Advances.refl tx
  | true =>
    obtain ⟨phase, waiting⟩ := PendingTx.exists_phase_of_isActive (active rfl)
    apply advances_stamped waiting
    · split <;> rfl
    · intro _ past
      cases past

theorem advances_observe {check : CosmosCheck} (fits : pipeline.Fits check observed tx) :
    Advances pipeline tx (pipeline.observe check now observed tx).1 := by
  cases pipeline with
  | gmp hasCosmGateway hasAxelarnetGateway =>
    cases check <;>
      exact advances_observeCosmos (fun _ _ => rfl) (fun seen => (fits seen).1)
        (fun _ its => nomatch its)
  | its target backfill hasVotingVerifier =>
    cases check with
    | voted =>
      exact advances_observeCosmos (fun _ _ => rfl) (fun seen => (fits seen).1)
        (fun _ _ past => nomatch past)
    | routed =>
      exact advances_observeCosmos (fun _ _ => rfl) (fun seen => (fits seen).1)
        (fun seen its _ => (fits seen).2 its rfl)
    | hubApproved => exact advances_observeHubApproved fun seen => (fits seen).1

theorem advances_observeSecondLeg {target : SecondLegTarget} {found : Option SecondLeg} :
    Advances pipeline tx (observeSecondLeg target now found tx).1 := by
  unfold observeSecondLeg
  cases found with
  | none => exact Advances.refl tx
  | some leg =>
    dsimp only
    unfold PendingTx.discoverSecondLeg
    split
    · rename_i current active
      split
      · exact Advances.refl tx
      · apply Advances.of_active active
        intro consistent
        exact PendingTx.consistent_of_active rfl (consistent.executedOk_of_active active)
          (fun _ _ => rfl)
    · exact Advances.refl tx

theorem advances_observeDestination {status : DestinationStatus} (fits : status.Fits tx) :
    Advances pipeline tx (observeDestination now status tx).1 := by
  unfold observeDestination
  by_cases isActive : tx.isActive = true
  · obtain ⟨phase, active⟩ := PendingTx.exists_phase_of_isActive isActive
    rw [if_pos isActive]
    cases status with
    | pending => exact Advances.refl tx
    | approved commandId =>
      dsimp only
      split
      · rename_i waits
        rw [PendingTx.isPhase_eq_true] at waits
        apply Advances.of_active waits
        intro consistent
        simp only [PendingTx.approveDestination, PendingTx.isPhase_eq_true, waits, if_true]
        exact PendingTx.consistent_of_active rfl (consistent.executedOk_of_active waits)
          (fun its _ => consistent.secondLeg_of_active waits its rfl)
      · exact Advances.refl tx
    | executed commandId =>
      have waits := fits isActive
      apply Advances.of_active active
      intro _
      have applies : ∀ timing : AmplifierTiming,
            ({ tx with timing := timing }.executeDestination commandId).1 =
              { tx with
                timing := timing
                commandId := commandId.or tx.commandId
                state := .succeeded false } := by
        intro timing
        unfold PendingTx.executeDestination
        rw [if_pos]
        simpa using waits
      rw [applies]
      exact PendingTx.consistent_of_succeeded rfl rfl rfl
  · rw [if_neg isActive]
    exact Advances.refl tx

theorem advances_failFast {reportedFailed : Bool} :
    Advances pipeline tx (failFast reportedFailed tx) := by
  unfold failFast
  split
  · rename_i reported
    obtain ⟨phase, active⟩ :=
      PendingTx.exists_phase_of_isActive (Bool.and_eq_true_iff.mp reported).1
    apply Advances.of_active active
    intro consistent
    have leg := consistent.secondLeg
    simp only [PendingTx.fail, PendingTx.failWith, active]
    apply PendingTx.consistent_of_unexecuted
    · exact consistent.executedOk_of_active active
    · rfl
    · simpa [PendingTx.phase, active] using leg
  · exact Advances.refl tx

theorem finalizeTimedOutTx_settled (labels : DestinationLabels) (executed : Bool) (tx : PendingTx) :
    (finalizeTimedOutTx labels now executed tx).isActive = false := by
  unfold finalizeTimedOutTx
  by_cases isActive : tx.isActive = true
  · obtain ⟨phase, active⟩ := PendingTx.exists_phase_of_isActive isActive
    rw [if_pos isActive]
    cases executed with
    | true => simp [markTimedOutTx, PendingTx.succeed, PendingTx.isActive, active]
    | false =>
      by_cases last : phase = .executed <;>
        simp [markTimedOutTx, PendingTx.timeOut, PendingTx.failWith, PendingTx.isActive,
          PendingTx.phase, active, last]
  · rw [if_neg isActive]
    simpa using isActive

theorem advances_finalizeTimedOutTx {labels : DestinationLabels} {executed : Bool} :
    Advances pipeline tx (finalizeTimedOutTx labels now executed tx) := by
  unfold finalizeTimedOutTx
  by_cases isActive : tx.isActive = true
  · obtain ⟨phase, active⟩ := PendingTx.exists_phase_of_isActive isActive
    rw [if_pos isActive]
    apply Advances.of_active active
    intro consistent
    have unexecuted := consistent.executedOk_of_active active
    have leg := consistent.secondLeg_of_active active
    cases executed with
    | true =>
      simp only [markTimedOutTx, PendingTx.succeed, PendingTx.isActive, active, if_true]
      apply PendingTx.consistent_of_succeeded rfl rfl
      simp
    | false =>
      by_cases last : phase = .executed
      · subst last
        simp only [markTimedOutTx, PendingTx.timeOut, PendingTx.failWith, PendingTx.phase,
          active, if_true]
        constructor
        · simp [PendingTx.isSucceeded]
        · intro _
          exact ⟨_, rfl⟩
        · intro succeeded
          cases succeeded
        · intro its waiting inPhase past
          exact leg its rfl
      · simp only [markTimedOutTx, PendingTx.timeOut, PendingTx.failWith, PendingTx.phase,
          active, if_neg last, Bool.false_eq_true, if_false]
        apply PendingTx.consistent_of_unexecuted
        · exact unexecuted
        · rfl
        · intro its waiting inPhase past
          cases inPhase
          exact leg its past
  · rw [if_neg isActive]
    exact Advances.refl tx

end Changes

/-!
## What whole runs keep
-/

/-- One batch after another: nothing is lost, and verdicts and consistency stay. -/
structure BatchAdvances (pipeline : Pipeline) (first second : List PendingTx) : Prop where
  kept : ∀ (index : Nat) (tx : PendingTx), first[index]? = some tx →
      ∃ later, second[index]? = some later ∧ Advances pipeline tx later
  consistent : (∀ tx ∈ first, tx.Consistent pipeline) → ∀ tx ∈ second, tx.Consistent pipeline

namespace BatchAdvances

variable {pipeline : Pipeline} {first second third : List PendingTx}

theorem refl (txs : List PendingTx) : BatchAdvances pipeline txs txs :=
  ⟨fun _ tx found => ⟨tx, found, Advances.refl tx⟩, fun consistent => consistent⟩

theorem trans (before : BatchAdvances pipeline first second)
    (after : BatchAdvances pipeline second third) :
    BatchAdvances pipeline first third := by
  constructor
  · intro index tx found
    obtain ⟨middle, foundMiddle, toMiddle⟩ := before.kept index tx found
    obtain ⟨later, foundLater, toLater⟩ := after.kept index middle foundMiddle
    exact ⟨later, foundLater, toMiddle.trans toLater⟩
  · intro consistent
    exact after.consistent (before.consistent consistent)

variable {txs : List PendingTx}

theorem set {index : Nat} {tx changed : PendingTx} (found : txs[index]? = some tx)
    (advance : Advances pipeline tx changed) :
    BatchAdvances pipeline txs (txs.set index changed) := by
  have bound : index < txs.length := (List.getElem?_eq_some_iff.mp found).1
  constructor
  · intro other old foundOld
    by_cases same : index = other
    · subst same
      rw [found] at foundOld
      cases foundOld
      exact ⟨changed, by simp [bound], advance⟩
    · exact ⟨old, by simpa [List.getElem?_set_ne same] using foundOld, Advances.refl old⟩
  · intro consistent later member
    rcases List.mem_or_eq_of_mem_set member with old | new
    · exact consistent later old
    · rw [new]
      exact advance.consistent (consistent tx (List.mem_of_getElem? found))

theorem updateAt {change : PendingTx → PendingTx × Bool} {index : Nat}
    (advances : ∀ tx, txs[index]? = some tx → Advances pipeline tx (change tx).1) :
    BatchAdvances pipeline txs (Verification.updateAt change index txs).1 := by
  unfold Verification.updateAt
  cases found : txs[index]? with
  | none => exact refl txs
  | some tx => exact set found (advances tx found)

theorem applyEach {Status : Type} {change : Instant → Status → PendingTx → PendingTx × Bool}
    {fits : Status → PendingTx → Prop}
    (advances : ∀ now status tx, fits status tx → Advances pipeline tx (change now status tx).1)
    (clock : Readings) (items : List (Nat × Status)) (txs : List PendingTx)
    (fit : EachFits change fits clock items txs) :
    BatchAdvances pipeline txs (Verification.applyEach change clock items txs).1 := by
  induction items generalizing clock txs with
  | nil => exact refl txs
  | cons item rest ih =>
    obtain ⟨firstFits, restFit⟩ := fit
    have one := updateAt fun tx found => advances (clock 0) item.2 tx (firstFits tx found)
    exact one.trans (ih _ _ restFit)

theorem mapIdx {change : Nat → PendingTx → PendingTx}
    (advances : ∀ index tx, Advances pipeline tx (change index tx)) (txs : List PendingTx) :
    BatchAdvances pipeline txs (txs.mapIdx change) := by
  constructor
  · intro index tx found
    exact ⟨change index tx, by simp [found], advances index tx⟩
  · intro consistent later member
    obtain ⟨index, bound, same⟩ := List.mem_mapIdx.mp member
    rw [← same]
    exact (advances index _).consistent (consistent _ (List.getElem_mem bound))

theorem append {tx : PendingTx} (fresh : tx.Consistent pipeline) :
    BatchAdvances pipeline txs (txs ++ [tx]) := by
  constructor
  · intro index old found
    have bound : index < txs.length := (List.getElem?_eq_some_iff.mp found).1
    exact ⟨old, by rw [List.getElem?_append_left bound, found], Advances.refl old⟩
  · intro consistent later member
    rcases List.mem_append.mp member with old | new
    · exact consistent later old
    · rw [List.mem_singleton.mp new]
      exact fresh

end BatchAdvances

section Runs

variable {pipeline : Pipeline}

theorem consistent_enroll {input : PendingTxInput} (creates : pipeline.Creates input.initialPhase) :
    (pipeline.enroll input).Consistent pipeline := by
  cases pipeline with
  | gmp hasCosmGateway hasAxelarnetGateway =>
    exact PendingTx.consistent_of_active rfl rfl fun its => nomatch its
  | its target backfill hasVotingVerifier =>
    have early : input.initialPhase.pastDiscovery = false := by
      rcases creates with voted | hubApproved
      · rw [voted]
        rfl
      · rw [hubApproved]
        rfl
    have fresh : (PendingTx.new input).Consistent (.its target backfill hasVotingVerifier) := by
      apply PendingTx.consistent_of_active rfl rfl
      intro _ past
      rw [early] at past
      cases past
    simp only [Pipeline.enroll, normalizeStart]
    split
    · apply Advances.consistent _ fresh
      apply advances_stamped rfl rfl
      intro _ past
      cases past
    · exact fresh

variable {txs : List PendingTx}

theorem advances_apply {event : Event} (admits : pipeline.Admits txs event) :
    BatchAdvances pipeline txs (pipeline.apply txs event) := by
  cases event with
  | receive input => exact .append (consistent_enroll admits)
  | sweep reportedFailed => exact .mapIdx (fun _ _ => advances_failFast) txs
  | cosmos check clock results =>
    have fit : EachFits (pipeline.observe check) (pipeline.Fits check) clock results txs := admits
    exact .applyEach (fun _ _ _ => advances_observe) clock results txs fit
  | discover clock found =>
    cases pipeline with
    | gmp hasCosmGateway hasAxelarnetGateway => exact .refl txs
    | its target backfill hasVotingVerifier =>
      have always : ∀ (items : List (Nat × Option SecondLeg)) clock txs,
            EachFits (observeSecondLeg target) (fun _ _ => True) clock items txs := by
        intro items
        induction items with
        | nil =>
          intro clock txs
          trivial
        | cons item rest ih =>
          intro clock txs
          exact ⟨fun _ _ => trivial, ih _ _⟩
      exact .applyEach (fun _ _ _ _ => advances_observeSecondLeg) clock found txs
        (always found clock txs)
  | destination clock observations =>
    have fit : EachFits observeDestination DestinationStatus.Fits clock observations txs := admits
    exact .applyEach (fun _ _ _ => advances_observeDestination) clock observations txs fit

theorem advances_run {events : List Event} (admits : pipeline.AdmitsAll txs events) :
    BatchAdvances pipeline txs (events.foldl pipeline.apply txs) := by
  induction events generalizing txs with
  | nil => exact .refl txs
  | cons event rest ih => exact (advances_apply admits.1).trans (ih admits.2)

theorem admitsAll_append {first second : List Event}
    (admits : pipeline.AdmitsAll txs (first ++ second)) :
    pipeline.AdmitsAll txs first ∧ pipeline.AdmitsAll (first.foldl pipeline.apply txs) second := by
  induction first generalizing txs with
  | nil => exact ⟨trivial, admits⟩
  | cons event rest ih =>
    obtain ⟨restAdmits, secondAdmits⟩ := ih admits.2
    exact ⟨⟨admits.1, restAdmits⟩, secondAdmits⟩

theorem BatchAdvances.settled {first second : List PendingTx}
    (advances : BatchAdvances pipeline first second) {index : Nat} {tx : PendingTx}
    (found : first[index]? = some tx) (settled : tx.isActive = false) :
    second[index]? = some tx := by
  obtain ⟨later, foundLater, advance⟩ := advances.kept index tx found
  rw [foundLater, advance.settled settled]

theorem PendingTx.Consistent.counted {tx : PendingTx} (consistent : tx.Consistent pipeline)
    (settled : tx.isActive = false) :
    tx.Counted := by
  cases shape : tx.state with
  | active phase => simp [PendingTx.isActive, shape] at settled
  | succeeded recovered =>
    right
    apply consistent.executedOk.mpr
    simp [PendingTx.isSucceeded, shape]
  | failed phase failure =>
    left
    simp [PendingTx.isFailed, shape]

end Runs

/--
In every run of every pipeline whose observations fit, a verdict and its timing
never change, state and timing agree at every moment, and the timeout pass gives
every transaction a verdict that the report counts.
-/
theorem verdicts_are_consistent
    (pipeline : Pipeline)
    (batch : List PendingTxInput)
    (created : ∀ input ∈ batch, pipeline.Creates input.initialPhase)
    (events : List Event)
    (fit : pipeline.AdmitsAll (batch.map pipeline.enroll) events)
    (labels : DestinationLabels)
    (recheck : Recheck) :
    let ended := finalizeTimedOutTxs labels recheck (pipeline.run batch events)
    (∀ before between after, events = before ++ between ++ after → ∀ (index : Nat) (tx : PendingTx),
        (pipeline.run batch before)[index]? = some tx → tx.isActive = false →
        (pipeline.run batch (before ++ between))[index]? = some tx ∧ ended[index]? = some tx) ∧
      (∀ before after, events = before ++ after →
        ∀ tx ∈ pipeline.run batch before, tx.Consistent pipeline) ∧
      (∀ tx ∈ ended, tx.isActive = false ∧ tx.Consistent pipeline) ∧
      ended.length = (pipeline.run batch events).length ∧
      (computeVerificationReport ended (computePeakThroughput ended)).Accounts ended := by
  intro ended
  have started : ∀ tx ∈ batch.map pipeline.enroll, tx.Consistent pipeline := by
    intro tx member
    obtain ⟨input, inBatch, same⟩ := List.mem_map.mp member
    rw [← same]
    exact consistent_enroll (created input inBatch)
  have finished : BatchAdvances pipeline (pipeline.run batch events) ended :=
    .mapIdx (fun _ _ => advances_finalizeTimedOutTx) _
  have allConsistent : ∀ tx ∈ ended, tx.Consistent pipeline :=
    finished.consistent ((advances_run fit).consistent started)
  have allSettled : ∀ tx ∈ ended, tx.isActive = false := by
    intro tx member
    obtain ⟨index, bound, same⟩ := List.mem_mapIdx.mp member
    rw [← same]
    exact finalizeTimedOutTx_settled labels _ _
  refine ⟨?_, ?_, fun tx member => ⟨allSettled tx member, allConsistent tx member⟩, ?_, ?_⟩
  · intro before between after split index tx found settled
    subst split
    obtain ⟨throughBetween, afterwards⟩ := admitsAll_append fit
    obtain ⟨_, fromBefore⟩ := admitsAll_append throughBetween
    have atBetween : (pipeline.run batch (before ++ between))[index]? = some tx := by
      have advances := advances_run fromBefore
      rw [← List.foldl_append] at advances
      exact advances.settled found settled
    have advances := advances_run afterwards
    rw [← List.foldl_append] at advances
    exact ⟨atBetween, (advances.trans finished).settled atBetween settled⟩
  · intro before after split
    subst split
    exact (advances_run (admitsAll_append fit).1).consistent started
  · exact List.length_mapIdx
  · apply computeVerificationReport_accounts
    intro tx member
    exact (allConsistent tx member).counted (allSettled tx member)

namespace Sample

def input (phase : Phase) : PendingTxInput where
  idx := 0
  messageId := "0xaa-0"
  sendInstant := 0
  sourceAddress := "0x01"
  contractAddr := 0
  payloadHash := none
  payloadHashHex := ""
  commandId := none
  gmpDestinationChain := "avalanche"
  gmpDestinationAddress := "0x02"
  initialPhase := phase

/-- The vote, the routing and the execution of transaction 0, in order. -/
def passage : List Event :=
  [ .cosmos .voted (fun _ => 1) [(0, true)], .cosmos .routed (fun _ => 2) [(0, true), (1, false)],
    .destination (fun _ => 3) [(0, .executed none), (0, .executed none)] ]

theorem passage_fits : (Pipeline.gmp true false).AdmitsAll
      ([input .voted, input .routed].map (Pipeline.gmp true false).enroll) passage := by
  simp [passage, input, Pipeline.AdmitsAll, Pipeline.Admits, EachFits, Pipeline.Fits,
    Pipeline.isIts, DestinationStatus.Fits, Pipeline.enroll, PendingTx.new,
    Pipeline.apply, applyEach, updateAt, Pipeline.observe, observeCosmos,
    PendingTx.transitionTo, Phase.canTransitionTo, gmpAfterVoted, gmpAfterRouted,
    PendingTx.isActive, PendingTx.isPhase, observeDestination,
    PendingTx.executeDestination]

end Sample

open Sample in
/-- One of two transactions is executed, the other one times out. -/
theorem verdicts_are_consistent_of_passage : (computeVerificationReport
        (finalizeTimedOutTxs ⟨"EVM approval", "EVM execution"⟩ ⟨fun _ => 9, fun _ => false⟩
          ((Pipeline.gmp true false).run [input .voted, input .routed] passage))
        (computePeakThroughput
          (finalizeTimedOutTxs ⟨"EVM approval", "EVM execution"⟩ ⟨fun _ => 9, fun _ => false⟩
            ((Pipeline.gmp true false).run [input .voted, input .routed] passage)))).Accounts
      (finalizeTimedOutTxs ⟨"EVM approval", "EVM execution"⟩ ⟨fun _ => 9, fun _ => false⟩
        ((Pipeline.gmp true false).run [input .voted, input .routed] passage)) :=
  (verdicts_are_consistent (.gmp true false) [input .voted, input .routed]
    (fun _ _ => trivial) passage passage_fits ⟨"EVM approval", "EVM execution"⟩
    ⟨fun _ => 9, fun _ => false⟩).2.2.2.2

open Sample in
/--
An execution that is observed while the vote is awaited is refused, but stamped:
the transaction later fails with a successful execution on record.  A late vote
changes the timing of a transaction that has its verdict.
-/
theorem refused_observations_are_stamped : (∃ tx ∈
        finalizeTimedOutTxs ⟨"EVM approval", "EVM execution"⟩ ⟨fun _ => 9, fun _ => false⟩
          ((Pipeline.gmp true false).run [input .voted]
            [.destination (fun _ => 1) [(0, .executed none)]]),
        tx.isFailed = true ∧ tx.timing.executedOk = some true) ∧
      (∃ before ∈ (Pipeline.gmp true false).run [input .voted] [.sweep fun _ => true], ∃ after ∈
          (Pipeline.gmp true false).run [input .voted]
            [.sweep fun _ => true, .cosmos .voted (fun _ => 1) [(0, true)]],
          before.isFailed = true ∧ after.timing ≠ before.timing) := by
  decide +kernel

end Axe.Verification

import Mathlib.Algebra.Order.Ring.Nat

namespace Axe.Stress

/-!
# The caps of a stress run

The scheduler starts deposit tasks up to its caps and joins them in any order.  What it
reserves for an admission is computed with saturating arithmetic.
-/

/-- The limits of a stress run. -/
structure StressLimits where
  maxIntents : Option Nat
  maxVolume : Option Nat
  maxInFlight : Nat
  amount : Nat
  deriving DecidableEq

inductive StopReason where
  | interrupted
  | duration
  | maxIntents
  | maxVolume
  | sourcesStopped
  deriving DecidableEq

inductive DepositOutcome where
  | confirmed
  | skipped
  | failed
  deriving DecidableEq

def saturated (bits value : Nat) : Nat := min value (2 ^ bits - 1)

def StressLimits.approvalAmount (limits : StressLimits) : Nat :=
  match limits.maxVolume, limits.maxIntents with
  | some volume, some count => min volume (saturated 256 (count * limits.amount))
  | some volume, none => volume
  | none, some count => saturated 256 (count * limits.amount)
  | none, none => 2 ^ 256 - 1

/-- The counters of a stress run. -/
structure AdmissionState where
  attempts : Nat
  committed : Nat
  confirmed : Nat
  skipped : Nat
  failed : Nat
  active : Nat
  deriving DecidableEq

namespace AdmissionState

/-- Why no more deposits are admitted. -/
def permanentStop (state : AdmissionState) (limits : StressLimits) : Option StopReason :=
  if limits.maxIntents.any fun cap => cap ≤ state.committed then
    some .maxIntents
  else if limits.maxVolume.any fun cap =>
      cap < saturated 256 (saturated 64 (state.committed + 1) * limits.amount) then
    some .maxVolume
  else
    none

/-- Another deposit fits within the limits. -/
def canAdmit (state : AdmissionState) (limits : StressLimits) : Bool :=
  let reserved := saturated 64 (state.committed + state.active + 1)
  state.active < limits.maxInFlight &&
    limits.maxIntents.all (fun cap => reserved ≤ cap) &&
    limits.maxVolume.all fun cap => saturated 256 (reserved * limits.amount) ≤ cap

/-- Count an admitted deposit. -/
def admitOne (state : AdmissionState) : AdmissionState :=
  { state with attempts := state.attempts + 1, active := state.active + 1 }

/-- Count the outcome of a deposit. -/
def complete (state : AdmissionState) (outcome : DepositOutcome) : AdmissionState :=
  let state := { state with active := state.active - 1 }
  match outcome with
  | .skipped => { state with skipped := state.skipped + 1 }
  | .confirmed => { state with confirmed := state.confirmed + 1, committed := state.committed + 1 }
  | .failed => { state with failed := state.failed + 1, committed := state.committed + 1 }

end AdmissionState

/-! ## The loop -/

inductive Phase where
  | top
  | waiting
  | returned
  deriving DecidableEq

/-- The scheduler, its tasks with whether each has sent its deposit, and all deposits sent. -/
structure Scheduler where
  state : AdmissionState
  tasks : List Bool
  stop : Option StopReason
  deposits : Nat
  phase : Phase
  deriving DecidableEq

def Scheduler.initial : Scheduler := ⟨⟨0, 0, 0, 0, 0, 0⟩, [], none, 0, .top⟩

/-- What the loop finds at its top: requests, the clock and how often a source is ready. -/
structure Poll where
  shutdown : Bool
  expired : Bool
  offers : Nat
  allStopped : Bool

def admitDeposits (limits : StressLimits) : Nat → Scheduler → Scheduler
  | 0, run => run
  | offers + 1, run =>
    if run.state.canAdmit limits then
      admitDeposits limits offers
        { run with state := run.state.admitOne, tasks := run.tasks ++ [false] }
    else
      run

def Scheduler.stopAtTop (run : Scheduler) (limits : StressLimits) (poll : Poll) :
    Option StopReason :=
  if poll.shutdown then some .interrupted
  else if poll.expired then some .duration
  else run.state.permanentStop limits

/-- The loop waits again, or returns if it is stopped and no task is left. -/
def Scheduler.settle (run : Scheduler) : Scheduler :=
  { run with phase := if run.stop.isSome ∧ run.tasks = [] then .returned else .waiting }

def Scheduler.loopTop (run : Scheduler) (limits : StressLimits) (poll : Poll) : Scheduler :=
  match run.stop.or (run.stopAtTop limits poll) with
  | some reason => { run with stop := some reason }.settle
  | none =>
    let started := admitDeposits limits poll.offers run
    { started with
      stop := if started.tasks = [] ∧ poll.allStopped then some .sourcesStopped else none }.settle

/-- A step of the scheduler. -/
inductive Step (limits : StressLimits) (run : Scheduler) : Scheduler → Prop where
  | loopTop (poll : Poll) (here : run.phase = .top) : Step limits run (run.loopTop limits poll)
  | sends {before after : List Bool} (split : run.tasks = before ++ false :: after) :
      Step limits run
        { run with tasks := before ++ true :: after, deposits := run.deposits + 1 }
  | joined {before after : List Bool} {sent : Bool} (outcome : DepositOutcome)
      (here : run.phase = .waiting) (split : run.tasks = before ++ sent :: after)
      (honest : outcome = .skipped → sent = false) :
      Step limits run
        { run with state := run.state.complete outcome, tasks := before ++ after, phase := .top }
  | panicked {before after : List Bool} {sent : Bool} (here : run.phase = .waiting)
      (split : run.tasks = before ++ sent :: after) :
      Step limits run
        { run with
          state := run.state.complete .failed
          tasks := before ++ after
          stop := some .sourcesStopped
          phase := .top }
  | shutdown (here : run.phase = .waiting) (free : run.stop = none) :
      Step limits run { run with stop := some .interrupted, phase := .top }
  | deadline (here : run.phase = .waiting) (free : run.stop = none) :
      Step limits run { run with stop := some .duration, phase := .top }
  | tick (here : run.phase = .waiting) : Step limits run { run with phase := .top }

inductive Reaches (limits : StressLimits) : Scheduler → Prop where
  | initial : Reaches limits .initial
  | step {run next : Scheduler} (reached : Reaches limits run) (step : Step limits run next) :
      Reaches limits next

/-! ## The invariant -/

/-- The volume that is reserved does not saturate, or the cap tells when it does. -/
def Scheduler.Exact (run : Scheduler) (limits : StressLimits) : Prop :=
  run.state.attempts * limits.amount < 2 ^ 256 ∨
    ∃ cap, limits.maxVolume = some cap ∧ cap < 2 ^ 256 - 1

/-- The counters agree with the tasks and with each other. -/
structure Counted (run : Scheduler) : Prop where
  active : run.state.active = run.tasks.length
  attempts : run.state.attempts =
    run.state.confirmed + run.state.skipped + run.state.failed + run.state.active
  committed : run.state.committed = run.state.confirmed + run.state.failed
  deposits : run.deposits ≤ run.state.committed + run.tasks.count true
  returned : run.phase = .returned → run.tasks = []

/-- The caps hold; the one on the volume only as long as what is reserved is exact. -/
structure Capped (limits : StressLimits) (run : Scheduler) : Prop where
  inFlight : run.state.active ≤ limits.maxInFlight
  intents : ∀ cap, limits.maxIntents = some cap → run.state.committed + run.state.active ≤ cap
  volume : run.Exact limits → ∀ cap, limits.maxVolume = some cap →
    (run.state.committed + run.state.active) * limits.amount ≤ cap

variable {limits : StressLimits} {run : Scheduler}

theorem Scheduler.Exact.earlier {next : Scheduler} (exact : next.Exact limits)
    (fewer : run.state.attempts ≤ next.state.attempts) :
    run.Exact limits :=
  exact.imp_left (Nat.lt_of_le_of_lt (Nat.mul_le_mul_right _ fewer))

theorem Capped.admitOne (counted : Counted run) (allowed : run.state.canAdmit limits = true)
    (tasks : List Bool) (few : run.state.attempts + 1 < 2 ^ 64) :
    Capped limits { run with state := run.state.admitOne, tasks := tasks } := by
  have within : run.state.committed + run.state.active + 1 ≤ run.state.attempts + 1 := by
    have := counted.attempts
    have := counted.committed
    omega
  have count : saturated 64 (run.state.committed + run.state.active + 1) =
      run.state.committed + run.state.active + 1 := Nat.min_eq_left (by omega)
  simp only [AdmissionState.canAdmit, count, Bool.and_eq_true, decide_eq_true_eq,
    Option.all_eq_true] at allowed
  obtain ⟨⟨free, intents⟩, volume⟩ := allowed
  refine ⟨free, intents, ?_⟩
  intro exact cap known
  have reserved := volume cap known
  rcases exact with low | ⟨most, isMost, below⟩
  · have total : (run.state.committed + run.state.active + 1) * limits.amount ≤
        (run.state.attempts + 1) * limits.amount := Nat.mul_le_mul_right _ within
    have small : (run.state.attempts + 1) * limits.amount < 2 ^ 256 := low
    rwa [saturated, Nat.min_eq_left (by omega)] at reserved
  · -- A cap below the largest amount refuses what saturates.
    cases isMost.symm.trans known
    rcases min_le_iff.mp reserved with exactly | saturates
    · exact exactly
    · omega

theorem Counted.admitOne (counted : Counted run) (open_ : run.phase ≠ .returned) :
    Counted { run with state := run.state.admitOne, tasks := run.tasks ++ [false] } := by
  obtain ⟨active, attempts, committed, deposits, -⟩ := counted
  constructor <;> simp only [AdmissionState.admitOne]
  · simp [active]
  · omega
  · exact committed
  · simpa using deposits
  · exact fun returned => absurd returned open_

theorem admitDeposits_attempts (limits : StressLimits) (offers : Nat) (run : Scheduler) :
    run.state.attempts ≤ (admitDeposits limits offers run).state.attempts := by
  induction offers generalizing run with
  | zero => exact Nat.le_refl _
  | succ offers ih =>
    rw [admitDeposits]
    split
    · have later := ih
        { run with state := run.state.admitOne, tasks := run.tasks ++ [false] }
      exact Nat.le_of_succ_le later
    · exact Nat.le_refl _

variable {next : Scheduler}

theorem admitDeposits_keeps (offers : Nat) (counted : Counted run) (capped : Capped limits run)
    (open_ : run.phase ≠ .returned)
    (few : (admitDeposits limits offers run).state.attempts < 2 ^ 64) :
    Counted (admitDeposits limits offers run) ∧ Capped limits (admitDeposits limits offers run) := by
  induction offers generalizing run with
  | zero => exact ⟨counted, capped⟩
  | succ offers ih =>
    rw [admitDeposits] at few ⊢
    split at few
    · rename_i allowed
      rw [if_pos allowed]
      have first := Nat.lt_of_le_of_lt (admitDeposits_attempts limits offers _) few
      exact ih (counted.admitOne open_) (Capped.admitOne counted allowed _ first) open_ few
    · rename_i refused
      rw [if_neg refused]
      exact ⟨counted, capped⟩

theorem Counted.settle (counted : Counted run) (stop : Option StopReason) :
    Counted ({ run with stop := stop }.settle) := by
  obtain ⟨active, attempts, committed, deposits, -⟩ := counted
  refine ⟨active, attempts, committed, deposits, ?_⟩
  intro returned
  simp only [Scheduler.settle] at returned ⊢
  split at returned
  · rename_i idle
    exact idle.2
  · cases returned

theorem Counted.complete (counted : Counted run) {before after : List Bool} {sent : Bool}
    {outcome : DepositOutcome} (split : run.tasks = before ++ sent :: after)
    (honest : outcome = .skipped → sent = false) (stop : Option StopReason) :
    Counted { run with
      state := run.state.complete outcome
      tasks := before ++ after
      stop := stop
      phase := .top } := by
  obtain ⟨active, attempts, committed, deposits, -⟩ := counted
  simp only [split, List.length_append, List.length_cons, List.count_append,
    List.count_cons] at active deposits
  cases outcome <;> cases sent <;>
    constructor <;>
    simp_all [AdmissionState.complete, List.count_append] <;> omega

theorem Capped.complete (capped : Capped limits run) (busy : 0 < run.state.active)
    (outcome : DepositOutcome) (tasks : List Bool) (stop : Option StopReason) :
    Capped limits { run with
      state := run.state.complete outcome
      tasks := tasks
      stop := stop
      phase := .top } := by
  obtain ⟨inFlight, intents, volume⟩ := capped
  have fewer : (run.state.complete outcome).committed + (run.state.complete outcome).active ≤
      run.state.committed + run.state.active := by
    cases outcome <;> simp only [AdmissionState.complete] <;> omega
  have sameAttempts : run.state.attempts = (run.state.complete outcome).attempts := by
    cases outcome <;> rfl
  refine ⟨?_, fun cap known => Nat.le_trans fewer (intents cap known), fun exact cap known =>
    Nat.le_trans (Nat.mul_le_mul_right _ fewer) (volume (exact.earlier sameAttempts.le) cap known)⟩
  cases outcome <;> simp only [AdmissionState.complete] <;> omega

theorem Step.attempts (step : Step limits run next) : run.state.attempts ≤ next.state.attempts := by
  cases step with
  | loopTop poll here =>
    unfold Scheduler.loopTop
    split
    · exact Nat.le_refl _
    · exact admitDeposits_attempts limits poll.offers run
  | joined outcome here split honest => cases outcome <;> exact Nat.le_refl _
  | _ => exact Nat.le_refl _

theorem Step.keeps (step : Step limits run next) (counted : Counted run)
    (capped : Capped limits run) (few : next.state.attempts < 2 ^ 64) :
    Counted next ∧ Capped limits next := by
  cases step with
  | loopTop poll here =>
    have open_ : run.phase ≠ .returned := by simp [here]
    unfold Scheduler.loopTop at few ⊢
    split
    · exact ⟨counted.settle _, ⟨capped.inFlight, capped.intents, capped.volume⟩⟩
    · rename_i free
      rw [free] at few
      obtain ⟨stillCounted, stillCapped⟩ :=
        admitDeposits_keeps poll.offers counted capped open_ few
      exact ⟨stillCounted.settle _, ⟨stillCapped.inFlight, stillCapped.intents, stillCapped.volume⟩⟩
  | @sends before after split =>
    obtain ⟨active, attempts, committed, deposits, returned⟩ := counted
    refine ⟨⟨?_, attempts, committed, ?_, ?_⟩, ⟨capped.inFlight, capped.intents, capped.volume⟩⟩
    · simpa [split] using active
    · simp [split, List.count_append] at deposits ⊢
      omega
    · intro ended
      simp [split] at returned
      exact absurd ended returned
  | joined outcome here split honest =>
    have busy : 0 < run.state.active := by
      rw [counted.active, split, List.length_append, List.length_cons]
      omega
    exact ⟨counted.complete split honest _, capped.complete busy outcome _ _⟩
  | panicked here split =>
    have busy : 0 < run.state.active := by
      rw [counted.active, split, List.length_append, List.length_cons]
      omega
    exact ⟨counted.complete split (by simp) _, capped.complete busy .failed _ _⟩
  | shutdown here free | deadline here free | tick here =>
    exact ⟨⟨counted.active, counted.attempts, counted.committed, counted.deposits, by simp⟩,
      ⟨capped.inFlight, capped.intents, capped.volume⟩⟩

theorem Reaches.keeps (reached : Reaches limits run) (few : run.state.attempts < 2 ^ 64) :
    Counted run ∧ Capped limits run := by
  induction reached with
  | initial =>
    exact ⟨⟨rfl, rfl, rfl, Nat.le_refl _, fun _ => rfl⟩,
      ⟨Nat.zero_le _, fun _ _ => Nat.zero_le _, fun _ _ _ => by simp [Scheduler.initial]⟩⟩
  | step reached step ih =>
    obtain ⟨counted, capped⟩ := ih (Nat.lt_of_le_of_lt step.attempts few)
    exact step.keeps counted capped few

theorem Step.stopped (step : Step limits run next) (stopped : run.stop.isSome) :
    next.stop.isSome ∧ next.state.attempts = run.state.attempts := by
  obtain ⟨reason, stop⟩ := Option.isSome_iff_exists.mp stopped
  cases step with
  | loopTop poll here => simp [Scheduler.loopTop, stop, Scheduler.settle]
  | sends split => exact ⟨stopped, rfl⟩
  | joined outcome here split honest => cases outcome <;> exact ⟨stopped, rfl⟩
  | panicked here split => exact ⟨rfl, rfl⟩
  | shutdown here free => simp [free] at stop
  | deadline here free => simp [free] at stop
  | tick here => exact ⟨stopped, rfl⟩

theorem le_approvalAmount {count : Nat}
    (intents : ∀ cap, limits.maxIntents = some cap → count ≤ cap)
    (volume : ∀ cap, limits.maxVolume = some cap → count * limits.amount ≤ cap)
    (low : count * limits.amount < 2 ^ 256) :
    count * limits.amount ≤ limits.approvalAmount := by
  have counted : ∀ cap, limits.maxIntents = some cap →
      count * limits.amount ≤ saturated 256 (cap * limits.amount) := fun cap known =>
    Nat.le_min.mpr ⟨Nat.mul_le_mul_right _ (intents cap known), by omega⟩
  unfold StressLimits.approvalAmount
  cases volumes : limits.maxVolume with
  | none =>
    cases counts : limits.maxIntents with
    | none => exact Nat.le_sub_one_of_lt low
    | some cap => exact counted cap counts
  | some most =>
    cases counts : limits.maxIntents with
    | none => exact volume most volumes
    | some cap => exact Nat.le_min.mpr ⟨volume most volumes, counted cap counts⟩

/-- Every state of a run with fewer than 2^64 attempts keeps the caps; its deposits stay
within the approval, a stopped run admits nothing and a returned one is idle.  Only what is
said of the volume needs that the reserved volume is exact. -/
theorem stress_run_keeps_its_caps
    {limits : StressLimits}
    {run : Scheduler}
    (reached : Reaches limits run)
    (few : run.state.attempts < 2 ^ 64) :
    Capped limits run ∧ run.state.attempts =
        run.state.confirmed + run.state.skipped + run.state.failed + run.state.active ∧
      run.state.committed = run.state.confirmed + run.state.failed ∧
      (∀ cap, limits.maxIntents = some cap → run.deposits ≤ cap) ∧
      (run.Exact limits → run.deposits * limits.amount ≤ limits.approvalAmount) ∧
      (run.stop.isSome → ∀ next, Step limits run next →
        next.stop.isSome ∧ next.state.attempts = run.state.attempts) ∧
      (run.phase = .returned → run.tasks = [] ∧ run.state.active = 0) := by
  obtain ⟨counted, capped⟩ := reached.keeps few
  have sent : run.deposits ≤ run.state.committed + run.state.active := by
    have known := counted.deposits
    have most := @List.count_le_length _ _ true run.tasks
    rw [counted.active]
    omega
  have within : run.deposits ≤ run.state.attempts := by
    have := counted.attempts
    have := counted.committed
    omega
  refine ⟨capped, counted.attempts, counted.committed,
    fun cap known => Nat.le_trans sent (capped.intents cap known), ?_,
    fun stopped next step => step.stopped stopped, ?_⟩
  · intro exact
    have volume : ∀ cap, limits.maxVolume = some cap → run.deposits * limits.amount ≤ cap :=
      fun cap known =>
        Nat.le_trans (Nat.mul_le_mul_right _ sent) (capped.volume exact cap known)
    apply le_approvalAmount _ volume
    · rcases exact with low | ⟨most, isMost, below⟩
      · exact Nat.lt_of_le_of_lt (Nat.mul_le_mul_right _ within) low
      · have small := volume most isMost
        omega
    · exact fun cap known => Nat.le_trans sent (capped.intents cap known)
  · intro returned
    have idle := counted.returned returned
    exact ⟨idle, by rw [counted.active, idle, List.length_nil]⟩

/-- A run that may start one deposit of half of all amounts at a time. -/
def wideLimits (inFlight : Nat) : StressLimits := ⟨none, some (2 ^ 256 - 1), inFlight, 2 ^ 255⟩

/-- One deposit of a very large amount is within the cap. -/
theorem one_wide_deposit_is_capped :
    let run := Scheduler.initial.loopTop (wideLimits 1) ⟨false, false, 2, false⟩
    run.Exact (wideLimits 1) ∧ Capped (wideLimits 1) run := by
  have reached := Reaches.initial.step
    (@Step.loopTop (wideLimits 1) _ ⟨false, false, 2, false⟩ rfl)
  exact ⟨.inl (by decide +kernel), (stress_run_keeps_its_caps reached (by decide +kernel)).1⟩

/-- The saturated volume hides the second deposit. -/
theorem two_wide_deposits_exceed_the_cap :
    ∃ run, Reaches (wideLimits 2) run ∧ (wideLimits 2).maxVolume = some (2 ^ 256 - 1) ∧
      run.state.active = 2 ∧
      ¬ (run.state.committed + run.state.active) * (wideLimits 2).amount ≤ 2 ^ 256 - 1 := by
  refine ⟨Scheduler.initial.loopTop (wideLimits 2) ⟨false, false, 2, false⟩,
    Reaches.initial.step (Step.loopTop _ rfl), rfl, ?_, ?_⟩
  · decide +kernel
  · decide +kernel

end Axe.Stress

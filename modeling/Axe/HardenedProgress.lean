import Axe.HardenedRunnerService
import Axe.SampleNode

namespace Axe.Hardened

/-!
# The order of the steps

The state file and the journal are written separately.  Whatever the process
was doing when it stopped, the completed steps are the first ones, and the
journal has actions of these steps and of the next one only.
-/

section Order

variable {lib : Platform} {honest : Prop} {plan : Plan}
variable {launches : List Launched} {count : Nat}

/-- Every recorded action belongs to a step that was reached. -/
def Journal.InOrder (journal : Journal) (count : Nat) (launches : List Launched) : Prop :=
  ∀ key, journal.history key ≠ [] → key.step.place ≤ count ∧
      (StepName.waitForVerifierSet.place ≤ key.step.place → Activated launches)

theorem Journal.inOrder_empty (fingerprint : Digest) :
    (Journal.empty fingerprint).InOrder count launches := by
  intro key begun
  simp [Journal.history, Journal.ledger, Ledger.history] at begun

variable {journal : Journal}

theorem Journal.InOrder.later {next : Nat} (ordered : journal.InOrder count launches)
    (later : count ≤ next) :
    journal.InOrder next launches :=
  fun key begun => ⟨(ordered key begun).1.trans later, (ordered key begun).2⟩

theorem Journal.InOrder.launched {more : List Launched} (ordered : journal.InOrder count launches) :
    journal.InOrder count (launches ++ more) :=
  fun key begun => ⟨(ordered key begun).1, fun late => ((ordered key begun).2 late).append⟩

variable {world : Chains lib}

theorem KeyMove.began {records : ActionKey → Transaction → Prop} {key : ActionKey}
    {ledger : Ledger Transaction} (move : KeyMove lib honest plan world records journal key ledger)
    (begun : ledger.history ≠ []) :
    journal.history key ≠ [] ∨ ∃ transaction, records key transaction := by
  have current : ∀ {old}, journal.get key = some old → journal.history key ≠ [] :=
    fun found => List.ne_nil_of_mem (mem_history_of_get found)
  cases move with
  | keep same =>
    rw [same] at begun
    exact .inl begun
  | recordEvm tx _ permitted _ => exact .inr ⟨_, permitted⟩
  | recordCosmos tx _ permitted _ => exact .inr ⟨_, permitted⟩
  | replaceEvm old tx checked _ => exact .inl (current checked.current)
  | replaceCosmos old tx checked _ => exact .inl (current checked.current)
  | retireEvm old found _ _ _ => exact .inl (current found)
  | retireCosmos old found _ _ _ => exact .inl (current found)

variable {here : Station} {saved : State}

theorem Journal.InOrder.move {later : Journal} (ordered : here.memory.InOrder count here.launches)
    (underway : Underway plan here saved count)
    (move : JournalMove lib honest plan world
        ((stagedPolicy lib plan).records here) here.memory later) :
    later.InOrder count here.launches := by
  intro key begun
  rcases (move.atKey key).began begun with before | ⟨transaction, state, stage, records⟩
  · exact ordered key before
  · cases underway.isSaved.symm.trans records.isSaved
    cases underway.staged.unique records.staged
    exact ⟨records.next.le, fun late => records.cleared (records.next ▸ late)⟩

/-- The saved steps are done up to a count, and the journal goes no further. -/
structure Ordered (plan : Plan) (here : Station) (saved : State) (count : Nat) : Prop where
  underway : Underway plan here saved count
  memory : here.memory.InOrder count here.launches
  disk : ∀ file, here.disk = some file → file.InOrder count here.launches

theorem Ordered.transition {here' : Station} {world' : Chains lib}
    (ordered : Ordered plan here saved count)
    (transition : RunnerTransition lib honest plan here world here' world') :
    ∃ saved' count', Ordered plan here' saved' count' ∧
      (StepName.predictGatewayAddress.place < count →
        saved'.predictedGatewayAddress = saved.predictedGatewayAddress) := by
  obtain ⟨saved', count', underway', later, predicted⟩ := ordered.underway.transition transition
  have sameLaunches := transition.saved_cases.1
  refine ⟨saved', count', ⟨underway', ?_, ?_⟩, predicted⟩
  · rw [sameLaunches]
    refine Journal.InOrder.later ?_ later
    rcases transition.memory_cases with
      same | ⟨_, opened | ⟨fingerprint, fresh⟩⟩ | ⟨_, move⟩
    · exact same ▸ ordered.memory
    · exact ordered.disk _ opened
    · exact fresh ▸ Journal.inOrder_empty fingerprint
    · exact ordered.memory.move ordered.underway move
  · intro file onDisk
    rw [sameLaunches]
    refine Journal.InOrder.later ?_ later
    rcases transition.disk_cases with
      same | ⟨_, fingerprint, fresh⟩ | ⟨_, written, move⟩
    · exact ordered.disk file (same ▸ onDisk)
    · cases onDisk.symm.trans fresh
      exact Journal.inOrder_empty fingerprint
    · cases onDisk.symm.trans written
      exact ordered.memory.move ordered.underway move

theorem Ordered.boot (ordered : Ordered plan here saved count) (options : Options)
    (context : State) :
    Ordered plan (here.boot options context) saved count :=
  ⟨ordered.underway.boot options context, Journal.inOrder_empty _,
    fun file onDisk => (ordered.disk file onDisk).launched⟩

theorem DeployConfig.Planned.ordered {config : DeployConfig lib} (planned : config.Planned plan) :
    ∃ saved, Ordered plan config.here saved 0 := by
  obtain ⟨state, underway⟩ := planned.underway
  obtain ⟨_, context, fresh, _⟩ := planned.here
  refine ⟨state, underway, ?_, ?_⟩
  · rw [fresh]
    exact Journal.inOrder_empty []
  · rw [fresh]
    exact fun _ absent => by cases absent

theorem RunnerRuns.ordered {first last : DeployConfig lib}
    (run : RunnerRuns lib honest first last) (planned : first.Planned plan) :
    ∃ saved count, Ordered plan last.here saved count := by
  let holds : Station → Chains lib → Prop :=
    fun here _ => ∃ saved count, Ordered plan here saved count
  have reached : holds last.here last.world := by
    obtain ⟨state, ordered⟩ := planned.ordered
    refine (RunnerRuns.invariant ?_ ?_ ?_ run ⟨state, 0, ordered.underway⟩
      (fun _ => planned.sound) planned.orderly ?_).2.2.2
    · rintro _ _ _ _ _ _ _ transition ⟨saved, count, ordered⟩
      obtain ⟨saved', count', ordered', _⟩ := ordered.transition transition
      exact ⟨saved', count', ordered'⟩
    · intro here world later _ ordered
      exact ordered
    · rintro here world options context ⟨saved, count, ordered⟩
      exact ⟨saved, count, ordered.boot options context⟩
    · exact ⟨state, 0, ordered⟩
  exact reached

theorem Staged.exists_step {steps : List Step} (staged : Staged plan count steps)
    (name : StepName) :
    ∃ step, steps[name.place]? = some step ∧ step.name = name := by
  have found := stepOrder_place name
  rw [← staged.names, List.getElem?_map] at found
  exact Option.map_eq_some_iff.mp found

theorem Staged.completed_or_next {state : State} (staged : Staged plan count state.steps)
    {name : StepName} (within : name.place ≤ count) :
    (∃ step ∈ state.steps, step.name = name ∧ step.status = .completed) ∨
      ∃ index step, Hardened.nextPendingStep state = some (index, step) ∧ step.name = name := by
  obtain ⟨step, placed, isNamed⟩ := staged.exists_step name
  rcases Nat.lt_or_eq_of_le within with earlier | isNext
  · exact .inl ⟨step, List.mem_of_getElem? placed, isNamed, (staged.completed placed).mpr earlier⟩
  · refine .inr ⟨count, step, ?_, isNamed⟩
    rw [staged.nextPendingStep, ← isNext, placed]
    rfl

/--
However the runner is launched and stopped, the saved steps are the planned ones
and the completed ones come first.  Every action of the journal file belongs to
a completed step or to the next one.  The steps from the checkpoint on have
actions only if some launch had the go-ahead when all steps before the
checkpoint were completed.
-/
theorem steps_are_done_in_order
    {first last : DeployConfig lib}
    (run : RunnerRuns lib honest first last)
    (planned : first.Planned plan) :
    ∃ state, last.here.saved = some state ∧ validateSteps state = .ok () ∧
        (∃ count, ∀ (index : Nat) (step : Step), state.steps[index]? = some step →
          (step.status = .completed ↔ index < count)) ∧
        ∀ file, last.here.disk = some file → ∀ key, file.history key ≠ [] → ((∃ step ∈ state.steps,
                step.name = key.step ∧ step.status = .completed) ∨
              ∃ index step, nextPendingStep state = some (index, step) ∧ step.name = key.step) ∧
              (StepName.waitForVerifierSet.place ≤ key.step.place →
                Activated last.here.launches) := by
  obtain ⟨state, count, ordered⟩ := run.ordered planned
  have staged := ordered.underway.staged
  refine ⟨state, ordered.underway.isSaved, staged.validateSteps ordered.underway.hasPlan,
    ⟨count, fun _ _ placed => staged.completed placed⟩, ?_⟩
  intro file onDisk key begun
  obtain ⟨within, activated⟩ := ordered.disk file onDisk key begun
  exact ⟨staged.completed_or_next within, activated⟩

end Order

namespace Sample

inductive Happening where
  | chain (move : ChainMove)
  | mine
  | execute

def lastHanded (world : Chains platform) : Option Handed := world.handed.getLast?

def Happening.move (world : Chains platform) : Happening → Option ChainMove
  | .chain move => some move
  | .mine =>
    match lastHanded world with
    | some (.evm raw) =>
      (platform.decodeEnvelope raw).map fun envelope => .evm (.extend ⟨[], [(envelope, true)]⟩)
    | _ => none
  | .execute =>
    match lastHanded world with
    | some (.cosmos raw) => some (.cosmos (.execute raw (world.cosmos.results.length + 1) 0))
    | _ => none

def runnerResponder : Responder (runnerService platform True) Happening Manner where
  move := fun happening world => (happening.move world).bind world.move
  move_sound := by
    intro happening world later moved
    obtain ⟨step, _, stepped⟩ := Option.bind_eq_some_iff.mp moved
    exact ⟨step, stepped⟩
  reply := fun manner here world op => some (replyTo manner here world op)
  reply_sound := by
    intro manner here world op answer replied
    cases replied
    exact replyTo_allowed True manner here world op

def plannedState : State :=
  { state (plan.steps.toOption.getD []) {} with hardenedPlan := some plan }

def plannedStart : DeployConfig platform :=
  ⟨.idle, Station.initial (some plannedState) plannedState, chains⟩

abbrev RunnerScript := List (Event Happening RunnerLaunch Manner)

theorem plannedStart_planned : plannedStart.Planned plan :=
  ⟨rfl, plannedState, plannedState, rfl, rfl, by decide +kernel⟩

def replayRunner (first : DeployConfig platform)
    (script : RunnerScript) : Option (DeployConfig platform) :=
  runnerResponder.play Service.Permit.anything script first

def firstLaunch : RunnerScript :=
  [ .launch ⟨{}, plannedState⟩, .answer .prompt 63, .world .mine, .answer .prompt 23, .world .mine,
    .answer .prompt 38, .world .mine, .answer .prompt 43, .world .mine,
    .answer .prompt 76, .world .execute, .answer .prompt 65, .world .execute,
    .answer .prompt 60, .stop ]

/-- The launch with the go-ahead, until the gateway implementation is deployed. -/
def activationLaunch (here : Station) : RunnerScript :=
  [ .launch ⟨{ activate := true }, here.saved.getD plannedState⟩,
    .answer .prompt 138, .world .mine ]

def proxyDeployment : RunnerScript := [.answer .prompt 39, .world .mine, .answer .prompt 12, .stop]

theorem gateway_deployment : ∃ middle last, RunnerRuns platform True plannedStart middle ∧
        RunnerRuns platform True middle last ∧
        (∃ file, middle.here.disk = some file ∧ file.get gatewayImplementationKey ≠ none) ∧
        ∃ file, last.here.disk = some file ∧ file.get gatewayImplementationKey ≠ none ∧
          file.get gatewayProxyKey ≠ none := by
  let passes : DeployConfig platform → Bool := fun last =>
      last.here.disk.any fun file =>
        file.get gatewayImplementationKey ≠ none ∧ file.get gatewayProxyKey ≠ none
  let activated : DeployConfig platform → Bool := fun middle =>
      (middle.here.disk.any fun file => file.get gatewayImplementationKey ≠ none) ∧
        (replayRunner middle proxyDeployment).any passes
  have replayed : (replayRunner plannedStart firstLaunch).any (fun paused =>
        (replayRunner paused (activationLaunch paused.here)).any activated) = true := by
    decide +kernel
  obtain ⟨paused, run, checked⟩ := Responder.exists_run replayed
  obtain ⟨middle, activation, found⟩ := Responder.exists_run checked
  obtain ⟨implementation, rest⟩ := of_decide_eq_true found
  obtain ⟨last, further, both⟩ := Responder.exists_run rest
  refine ⟨middle, last, run.trans activation, further, ?_, ?_⟩
  · simpa [Option.any_eq_true] using implementation
  · simpa [passes, Option.any_eq_true] using both

end Sample

open Sample in
/-- The result at a run that is beyond the checkpoint. -/
theorem steps_are_done_in_order_beyond_checkpoint :
    ∃ (last : DeployConfig Sample.platform) (file : Journal),
      RunnerRuns Sample.platform True plannedStart last ∧
        last.here.disk = some file ∧ file.get gatewayProxyKey ≠ none ∧
        Activated last.here.launches := by
  obtain ⟨middle, last, run, further, _, file, onDisk, _, proxy⟩ := gateway_deployment
  have whole : RunnerRuns Sample.platform True plannedStart last := run.trans further
  obtain ⟨_, _, _, _, journal⟩ := steps_are_done_in_order whole plannedStart_planned
  obtain ⟨transaction, current⟩ := Option.ne_none_iff_exists'.mp proxy
  have begun : file.history gatewayProxyKey ≠ [] := List.ne_nil_of_mem (mem_history_of_get current)
  exact ⟨last, file, whole, onDisk, proxy,
    (journal file onDisk gatewayProxyKey begun).2 (by decide)⟩

end Axe.Hardened

import Axe.HardenedInvariants
import Axe.HardenedRunnerContracts

namespace Axe.Hardened

/-!
# Runs of the runner

The runner is launched again and again, with any options, on the state file and
the journal that the launches before left behind.  A launch can end after any
call.  What a launch has in memory before it reads its files does not matter.
-/

structure RunnerLaunch where
  options : Options
  context : State

/-- Whole runs as a service that can crash and start again. -/
def runnerService (lib : Platform) (honest : Prop) :
    Service deployInterface Stop Station (Chains lib) RunnerLaunch where
  machine := deployMachine lib honest
  boot := fun launch here => here.boot launch.options launch.context
  program := fun launch => runDeployment lib launch.options

/-- Any sequence of launches, stops and steps of the world. -/
abbrev RunnerRuns (lib : Platform) (honest : Prop) : DeployConfig lib → DeployConfig lib → Prop :=
  (runnerService lib honest).Runs Service.Permit.anything

structure DeployConfig.Planned {lib : Platform} (plan : Plan)
    (config : DeployConfig lib) : Prop where
  idle : config.activity = .idle
  here : ∃ state context, config.here = Station.initial (some state) context ∧
        state.hardenedPlan = some plan ∧ plan.steps = .ok state.steps

section Launches

variable {launches more : List Launched} {count : Nat}

theorem Activated.append (activated : Activated launches) : Activated (launches ++ more) := by
  obtain ⟨launch, member, facts⟩ := activated
  exact ⟨launch, List.mem_append_left _ member, facts⟩

theorem Staged.unique {plan : Plan} {other : Nat} {steps : List Step}
    (staged : Staged plan count steps) (stagedToo : Staged plan other steps) :
    count = other := by
  have bounded : ∀ {low high : Nat}, Staged plan low steps → Staged plan high steps →
        ¬ low < high := by
    intro low high stagedLow stagedHigh less
    have within : low < steps.length := Nat.lt_of_lt_of_le less stagedHigh.within
    have placed : steps[low]? = some steps[low] := List.getElem?_eq_getElem within
    have status := (stagedHigh.completed placed).mpr less
    exact Nat.lt_irrefl low ((stagedLow.completed placed).mp status)
  exact Nat.le_antisymm (Nat.le_of_not_lt (bounded stagedToo staged))
    (Nat.le_of_not_lt (bounded staged stagedToo))

end Launches

section Steps

variable {lib : Platform} {honest : Prop} {plan : Plan}
variable {here here' : Station} {world world' : Chains lib}

abbrev RunnerTransition (lib : Platform) (honest : Prop) (plan : Plan) :
    Promise Station (Chains lib) :=
  Transition lib honest plan (stagedPolicy lib plan)

theorem Transition.saved_cases {policy : Policy}
    (transition : Transition lib honest plan policy here world here' world') :
    here'.launches = here.launches ∧ (here'.saved = here.saved ∨
        policy.saves here ∧ here'.saved = some here.context.stripped ∧
          here'.memory = here.memory ∧ here'.disk = here.disk) := by
  cases transition with
  | save outcome permitted =>
    refine ⟨rfl, ?_⟩
    cases outcome with
    | failedBefore => exact .inl rfl
    | ok => exact .inr ⟨permitted, rfl, rfl, rfl⟩
    | failedAfter => exact .inr ⟨permitted, rfl, rfl, rfl⟩
  | _ => exact ⟨rfl, .inl rfl⟩

variable {saved : State} {count : Nat}

theorem Underway.transition (underway : Underway plan here saved count)
    (transition : RunnerTransition lib honest plan here world here' world') :
    ∃ saved' count', Underway plan here' saved' count' ∧ count ≤ count' ∧
      (StepName.predictGatewayAddress.place < count →
        saved'.predictedGatewayAddress = saved.predictedGatewayAddress) := by
  obtain ⟨sameLaunches, same | ⟨⟨before, stage, saves⟩, written, _, _⟩⟩ := transition.saved_cases
  · refine ⟨saved, count, ⟨same.trans underway.isSaved, underway.hasPlan,
      underway.staged, sameLaunches.symm ▸ underway.passed⟩, le_rfl, fun _ => rfl⟩
  · cases underway.isSaved.symm.trans saves.isSaved
    cases underway.staged.unique saves.staged
    rcases saves.next with staged | ⟨staged, cleared⟩
    · exact ⟨_, count, ⟨written, saves.hasPlan, staged,
        sameLaunches.symm ▸ underway.passed⟩, le_rfl, saves.predicted⟩
    · refine ⟨_, count + 1, ⟨written, saves.hasPlan, staged, ?_⟩, Nat.le_succ _, saves.predicted⟩
      intro later
      rw [sameLaunches]
      exact cleared (by omega)

theorem Underway.boot (underway : Underway plan here saved count) (options : Options)
    (context : State) :
    Underway plan (here.boot options context) saved count :=
  ⟨underway.isSaved, underway.hasPlan, underway.staged, fun later => (underway.passed later).append⟩

theorem Underway.launched (underway : Underway plan here saved count)
    (sound : honest → here.Sound lib) (launch : RunnerLaunch) :
    Meets (deployMachine lib honest) (RunnerTransition lib honest plan)
      ((runnerService lib honest).program launch)
      (fun _ _ _ => True) (fun _ _ _ => True)
      ((runnerService lib honest).boot launch here) world := by
  have booted := underway.boot launch.options launch.context
  refine keeps_runDeployment booted ⟨⟨saved, ?_, underway.staged⟩, booted.passed⟩ ?_
  · have isLast : ((runnerService lib honest).boot launch here).launches =
          here.launches ++ [⟨launch.options, here.saved⟩] := rfl
    rw [isLast, underway.isSaved]
    exact List.mem_append_right _ List.mem_cons_self
  · refine ⟨rfl, fun trusted => ⟨empty_sound [], ?_⟩⟩
    exact (sound trusted).disk

end Steps

section Rule

variable {lib : Platform} {honest : Prop} {plan : Plan}

/-- The runner makes transitions of the staged policy only. -/
abbrev DeployConfig.Orderly (honest : Prop) (plan : Plan) (config : DeployConfig lib) : Prop :=
  (runnerService lib honest).Obedient
    (RunnerTransition lib honest plan) config

variable {config : DeployConfig lib}

theorem DeployConfig.Planned.underway (planned : config.Planned plan) :
    ∃ saved, Underway plan config.here saved 0 := by
  obtain ⟨state, context, fresh, hasPlan, steps⟩ := planned.here
  exact ⟨state, by rw [fresh]; rfl, hasPlan, .start steps, fun later => by omega⟩

/--
The rule for runs of the runner.  An invariant may use where the deployment
stands, and that receipts are sound.
-/
theorem RunnerRuns.invariant
    {holds : Station → Chains lib → Prop}
    (transition : ∀ {here world here' world' saved count}, Underway plan here saved count →
      RunnerTransition lib honest plan here world here' world' →
      holds here world → holds here' world')
    (evolve : ∀ {here} {world later : Chains lib},
      world.Evolve later → holds here world → holds here later)
    (boot : ∀ {here world} options context,
      holds here world → holds (here.boot options context) world)
    {first last : DeployConfig lib}
    (run : RunnerRuns lib honest first last)
    (underway : ∃ saved count, Underway plan first.here saved count)
    (sound : honest → first.here.Sound lib)
    (orderly : first.Orderly honest plan)
    (start : holds first.here first.world) :
    (∃ saved count, Underway plan last.here saved count) ∧
      (honest → last.here.Sound lib) ∧ last.Orderly honest plan ∧
      holds last.here last.world := by
  let all : Station → Chains lib → Prop := fun here world =>
      (∃ saved count, Underway plan here saved count) ∧ (honest → here.Sound lib) ∧ holds here world
  have reached : all last.here last.world ∧ last.Orderly honest plan := by
    refine Service.Runs.invariantFrom ?_ ?_ run orderly ⟨underway, sound, start⟩
    · intro here world here' world' change _ before
      obtain ⟨⟨saved, count, stands⟩, soundHere, holdsHere⟩ := before
      cases change with
      | environment evolved => exact ⟨⟨saved, count, stands⟩, soundHere, evolve evolved holdsHere⟩
      | boot launch =>
        exact ⟨⟨saved, count, stands.boot _ _⟩,
          fun trusted => (soundHere trusted).boot _ _, boot _ _ holdsHere⟩
      | perform kept =>
        obtain ⟨saved', count', stands', _⟩ := stands.transition kept
        exact ⟨⟨saved', count', stands'⟩, fun trusted => kept.sound trusted (soundHere trusted),
          transition stands kept holdsHere⟩
      | stop => exact ⟨⟨saved, count, stands⟩, soundHere, holdsHere⟩
    · intro here world before launch
      obtain ⟨⟨saved, count, stands⟩, soundHere, _⟩ := before
      exact stands.launched soundHere launch
  exact ⟨reached.1.1, reached.1.2.1, reached.2, reached.1.2.2⟩

theorem DeployConfig.Planned.sound (planned : config.Planned plan) : config.here.Sound lib := by
  obtain ⟨state, context, fresh, _⟩ := planned.here
  rw [fresh]
  exact ⟨empty_sound [], fun _ absent => by cases absent⟩

theorem DeployConfig.Planned.orderly (planned : config.Planned plan) :
    config.Orderly honest plan := by
  unfold DeployConfig.Orderly Service.Obedient
  rw [planned.idle]
  trivial

theorem JournalInvariant.reachedByRunner {holds : Journal → EvmChain lib → CosmosChain lib → Prop}
    (invariant : JournalInvariant lib honest plan anyChange holds)
    {first last : DeployConfig lib} (run : RunnerRuns lib honest first last)
    (planned : first.Planned plan) :
    Everywhere holds last.here last.world := by
  obtain ⟨saved, underway⟩ := planned.underway
  refine (RunnerRuns.invariant ?_ ?_ ?_ run ⟨saved, 0, underway⟩
    (fun _ => planned.sound) planned.orderly ?_).2.2.2
  · intro _ _ _ _ _ _ _ transition before
    exact invariant.transition transition trivial before
  · intro here world later evolved before
    exact ⟨invariant.evolve evolved before.1,
      fun file onDisk => invariant.evolve evolved (before.2 file onDisk)⟩
  · intro here world options context before
    exact ⟨invariant.empty _ _ _, before.2⟩
  · obtain ⟨state, context, fresh, _⟩ := planned.here
    rw [fresh]
    exact ⟨invariant.empty _ _ _, fun _ absent => by cases absent⟩

end Rule

end Axe.Hardened

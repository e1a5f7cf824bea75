import Axe.ProgramContract

namespace Axe

/-!
# Services that crash and restart

A service owns a state with a part that survives a crash.  It is idle, or it
runs the program of its last launch.  A run can end after any call, whether the
program is finished or not; the next launch then starts from what the boot
function keeps.

The rule at the end of this module is the one every safety result uses: a
program that keeps its promise at every call keeps every invariant that the
promise, the boot function and the world keep.
-/

/-- A machine with the programs that can be launched on it. -/
structure Service (api : Interface) (Error Local World Launch : Type) where
  machine : Machine api Local World
  boot : Launch → Local → Local
  program : Launch → Program api Error Unit

/-- What the service does: nothing, or the rest of a program. -/
inductive Activity (api : Interface) (Error : Type) where
  | idle
  | busy (program : Program api Error Unit)

/-- What the service does, what it remembers and the world around it. -/
structure Config (api : Interface) (Error Local World : Type) where
  activity : Activity api Error
  here : Local
  world : World

namespace Service

variable {api : Interface} {Error Local World Launch : Type}

/-- The environment moves, a program is launched, makes a call, or stops at any point. -/
inductive Step (service : Service api Error Local World Launch) :
    Config api Error Local World →
    Config api Error Local World → Prop where
  | environment
      {activity : Activity api Error}
      {here : Local}
      {world later : World}
      (evolved : service.machine.evolve world later) :
      Step service ⟨activity, here, world⟩ ⟨activity, here, later⟩
  | launch
      {here : Local}
      {world : World}
      (order : Launch) :
      Step service
        ⟨.idle, here, world⟩
        ⟨.busy (service.program order), service.boot order here, world⟩
  | perform
      {op : api.Call}
      {next : api.Reply op → Program api Error Unit}
      {here : Local}
      {world : World}
      (reply : api.Reply op)
      (allowed : service.machine.allowed here world op reply) :
      Step service
        ⟨.busy (.call op next), here, world⟩
        ⟨.busy (next reply), (service.machine.react op reply here world).1,
          (service.machine.react op reply here world).2⟩
  | stop
      {program : Program api Error Unit}
      {here : Local}
      {world : World} :
      Step service ⟨.busy program, here, world⟩ ⟨.idle, here, world⟩

/-- Which changes are allowed to happen. -/
abbrev Permit (Local World : Type) := Promise Local World

/-- No change is ruled out. -/
def Permit.anything : Permit Local World := fun _ _ _ _ => True

/-- Any number of steps, each of which meets a condition. -/
def Runs (service : Service api Error Local World Launch) (permit : Permit Local World) :
    Config api Error Local World →
    Config api Error Local World → Prop :=
  Relation.ReflTransGen fun first second =>
    service.Step first second ∧ permit first.here first.world second.here second.world

/-- The running program, if there is one, keeps the promise. -/
def Obedient (service : Service api Error Local World Launch) (promise : Promise Local World)
    (config : Config api Error Local World) : Prop :=
  match config.activity with
  | .idle => True
  | .busy program =>
    Meets service.machine promise program
      (fun _ _ _ => True) (fun _ _ _ => True)
      config.here config.world

/-- What one step of an obedient service can change. -/
inductive Change (service : Service api Error Local World Launch) (promise : Promise Local World) :
    Local → World → Local → World → Prop where
  | environment
      {here : Local}
      {world later : World}
      (evolved : service.machine.evolve world later) :
      Change service promise here world here later
  | boot
      {here : Local}
      {world : World}
      (order : Launch) :
      Change service promise here world (service.boot order here) world
  | perform
      {here here' : Local}
      {world world' : World}
      (kept : promise here world here' world') :
      Change service promise here world here' world'
  | stop
      {here : Local}
      {world : World} :
      Change service promise here world here world

variable {service : Service api Error Local World Launch} {promise : Promise Local World}
variable {first second : Config api Error Local World}

theorem Obedient.change (obedient : service.Obedient promise first)
    (step : service.Step first second) :
    service.Change promise
      first.here first.world second.here second.world := by
  cases step with
  | environment evolved => exact .environment evolved
  | launch order => exact .boot order
  | perform reply allowed => exact .perform (obedient _ .refl reply allowed).1
  | stop => exact .stop

theorem Obedient.step (obedient : service.Obedient promise first)
    (launched : ∀ order, Meets service.machine promise (service.program order)
          (fun _ _ _ => True) (fun _ _ _ => True)
          (service.boot order first.here) first.world) (step : service.Step first second) :
    service.Obedient promise second := by
  cases step with
  | @environment activity here world later evolved =>
    cases activity with
    | idle => trivial
    | busy program =>
      exact Meets.evolves obedient (fun _ _ _ _ _ _ => trivial) (fun _ _ _ _ _ _ => trivial)
        (Relation.ReflTransGen.single evolved)
  | launch order => exact launched order
  | perform reply allowed => exact (obedient _ .refl reply allowed).2
  | stop => trivial

variable {permit : Permit Local World} {holds : Local → World → Prop}
  {last : Config api Error Local World}
  (kept : ∀ {here world here' world'}, service.Change promise here world here' world' →
    permit here world here' world' → holds here world → holds here' world')
  (launched : ∀ {here world}, holds here world → ∀ order,
    Meets service.machine promise (service.program order) (fun _ _ _ => True) (fun _ _ _ => True)
      (service.boot order here) world)

include kept launched

/--
The invariant rule.  An invariant that the environment, the boot function and
every permitted promised change keep holds after every run of an obedient
service, and the service is obedient there.
-/
theorem Runs.invariantFrom
    (run : service.Runs permit first last)
    (obedient : service.Obedient promise first)
    (start : holds first.here first.world) :
    holds last.here last.world ∧ service.Obedient promise last := by
  induction run with
  | refl => exact ⟨start, obedient⟩
  | tail _ step ih =>
    obtain ⟨before, stillObedient⟩ := ih
    have changed := stillObedient.change step.1
    exact ⟨kept changed step.2 before,
      stillObedient.step (fun order => launched before order) step.1⟩

theorem Runs.invariant (run : service.Runs permit first last) (idle : first.activity = .idle) (start : holds first.here first.world) :
    holds last.here last.world ∧ service.Obedient promise last := by
  refine invariantFrom kept launched run ?_ start
  unfold Obedient
  rw [idle]
  trivial

end Service

end Axe

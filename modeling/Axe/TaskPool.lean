import Axe.ProgramContract

namespace Axe

/-!
# Tasks that share one world

Any number of tasks run beside each other.  Each runs a program, one call at a
time, and the calls of different tasks interleave in every order.  New tasks
start at any moment, and the world moves by itself as well.

A task is verified alone, against everything that the others may do to the
world between two of its calls.  The rule at the end puts the tasks together: if
each of them does to the world only what it guarantees, and the others can rely
on that, every invariant of the guarantees holds in every state of every run.
-/

/-- Tasks over a shared world, with the requests that start them. -/
structure TaskPool (api : Interface) (Error World Order : Type) where
  allowed : Nat → World → (op : api.Call) → api.Reply op → Prop
  react : Nat → (op : api.Call) → api.Reply op → World → World
  evolve : World → World → Prop
  program : Order → Program api Error Unit

structure PoolState (api : Interface) (Error World : Type) where
  tasks : List (Program api Error Unit)
  world : World

namespace TaskPool

variable {api : Interface} {Error World Order : Type}

/-- A step of the world or of one task. -/
inductive Step (pool : TaskPool api Error World Order) :
    PoolState api Error World → PoolState api Error World → Prop where
  | environment
      {tasks : List (Program api Error Unit)}
      {world later : World}
      (evolved : pool.evolve world later) :
      Step pool ⟨tasks, world⟩ ⟨tasks, later⟩
  | spawn
      {tasks : List (Program api Error Unit)}
      {world : World}
      (order : Order) :
      Step pool ⟨tasks, world⟩ ⟨tasks ++ [pool.program order], world⟩
  | perform
      {tasks : List (Program api Error Unit)}
      {world : World}
      {op : api.Call}
      {next : api.Reply op → Program api Error Unit}
      (task : Nat)
      (running : tasks[task]? = some (.call op next))
      (reply : api.Reply op)
      (allowed : pool.allowed task world op reply) :
      Step pool ⟨tasks, world⟩
        ⟨tasks.set task (next reply), pool.react task op reply world⟩

abbrev Permit (World : Type) := World → World → Prop

def Permit.anything : Permit World := fun _ _ => True

/-- Any number of steps, each of which meets a condition. -/
def Runs (pool : TaskPool api Error World Order) (permit : Permit World) :
    PoolState api Error World → PoolState api Error World → Prop :=
  Relation.ReflTransGen fun first second => pool.Step first second ∧ permit first.world second.world

def machine (pool : TaskPool api Error World Order) (rely : Nat → World → World → Prop)
    (task : Nat) :
    Machine api Unit World where
  allowed := fun _ world => pool.allowed task world
  react := fun op reply here world => (here, pool.react task op reply world)
  evolve := rely task

abbrev Behaves (pool : TaskPool api Error World Order)
    (rely guarantee : Nat → World → World → Prop) (task : Nat) {Value : Type}
    (program : Program api Error Value) (ends : Value → World → Prop)
    (fails : Error → World → Prop) (world : World) : Prop :=
  Meets (pool.machine rely task) (fun _ world _ later => guarantee task world later)
    program (fun value _ world => ends value world) (fun error _ world => fails error world)
    () world

/-- Every task keeps its guarantee while it can rely on the others. -/
def Obedient (pool : TaskPool api Error World Order) (rely guarantee : Nat → World → World → Prop)
    (state : PoolState api Error World) : Prop :=
  ∀ task program, state.tasks[task]? = some program →
    pool.Behaves rely guarantee task program (fun _ _ => True) (fun _ _ => True) state.world

variable {pool : TaskPool api Error World Order} {rely guarantee : Nat → World → World → Prop}
variable {permit : Permit World} {first second last : PoolState api Error World}

theorem Behaves.relies {task : Nat} {program : Program api Error Unit} {world later : World}
    (behaves : pool.Behaves rely guarantee task program (fun _ _ => True) (fun _ _ => True) world)
    (moved : rely task world later) :
    pool.Behaves rely guarantee task program (fun _ _ => True) (fun _ _ => True) later :=
  Meets.evolves behaves (fun _ _ _ _ _ _ => trivial) (fun _ _ _ _ _ _ => trivial)
    (Relation.ReflTransGen.single moved)

inductive Change (pool : TaskPool api Error World Order)
    (guarantee : Nat → World → World → Prop) (count : Nat) : World → World → Prop where
  | environment
      {world later : World}
      (evolved : pool.evolve world later) :
      Change pool guarantee count world later
  | perform
      {world later : World}
      (task : Nat)
      (known : task < count)
      (kept : guarantee task world later) :
      Change pool guarantee count world later

/--
One step of an obedient pool: it spawns a task, or changes the world as the
environment or a guarantee allows; all tasks stay obedient.
-/
theorem Obedient.step
    (obedient : pool.Obedient rely guarantee first)
    (others : ∀ {task other world later}, task ≠ other → guarantee task world later →
      rely other world later)
    (surroundings : ∀ {task world later}, pool.evolve world later → rely task world later)
    (spawned : ∀ order, pool.Behaves rely guarantee first.tasks.length (pool.program order)
      (fun _ _ => True) (fun _ _ => True) first.world)
    (step : pool.Step first second) :
    pool.Obedient rely guarantee second ∧
      ((second.world = first.world ∧ second.tasks.length = first.tasks.length + 1) ∨
        (second.tasks.length = first.tasks.length ∧
          pool.Change guarantee first.tasks.length first.world second.world)) := by
  cases step with
  | environment evolved =>
    constructor
    · intro task program running
      exact (obedient task program running).relies (surroundings evolved)
    · exact .inr ⟨rfl, .environment evolved⟩
  | @spawn tasks world order =>
    constructor
    · intro task program running
      by_cases old : task < tasks.length
      · rw [List.getElem?_append_left old] at running
        exact obedient task program running
      · have isNew : task = tasks.length := by
          have bound := (List.getElem?_eq_some_iff.mp running).1
          simp at bound
          omega
        subst isNew
        simp at running
        subst running
        exact spawned order
    · exact .inl ⟨rfl, by simp⟩
  | @perform tasks world op next task running reply allowed =>
    obtain ⟨kept, rest⟩ := obedient task _ running _ .refl reply allowed
    have bound : task < tasks.length := (List.getElem?_eq_some_iff.mp running).1
    constructor
    · intro other program otherRunning
      by_cases same : task = other
      · subst same
        rw [List.getElem?_set_self bound] at otherRunning
        cases otherRunning
        exact rest
      · rw [List.getElem?_set_ne same] at otherRunning
        exact (obedient other program otherRunning).relies (others same kept)
    · exact .inr ⟨by simp, .perform task bound kept⟩

/--
The invariant rule.  An invariant that every permitted change keeps holds after
every run of an obedient pool, and the pool is obedient there.
-/
theorem Runs.invariant
    {holds : Nat → World → Prop}
    (others : ∀ {task other world later}, task ≠ other → guarantee task world later →
      rely other world later)
    (surroundings : ∀ {task world later}, pool.evolve world later → rely task world later)
    (kept : ∀ {count world later}, pool.Change guarantee count world later →
      permit world later → holds count world → holds count later)
    (more : ∀ {count world}, holds count world → holds (count + 1) world)
    (spawned : ∀ {count world}, holds count world → ∀ order,
      pool.Behaves rely guarantee count (pool.program order)
      (fun _ _ => True) (fun _ _ => True) world)
    (run : pool.Runs permit first last)
    (obedient : pool.Obedient rely guarantee first)
    (start : holds first.tasks.length first.world) :
    holds last.tasks.length last.world ∧ pool.Obedient rely guarantee last := by
  induction run with
  | refl => exact ⟨start, obedient⟩
  | tail _ step ih =>
    obtain ⟨before, stillObedient⟩ := ih
    obtain ⟨nextObedient, isNew | ⟨sameLength, change⟩⟩ :=
      stillObedient.step others surroundings (spawned before) step.1
    · rw [isNew.1, isNew.2]
      exact ⟨more before, nextObedient⟩
    · rw [sameLength]
      exact ⟨kept change step.2 before, nextObedient⟩

def confined (pool : TaskPool api Error World Order)
    (permit : Permit World) : TaskPool api Error World Order :=
  { pool with evolve := fun world later => pool.evolve world later ∧ permit world later }

theorem Runs.confined (run : pool.Runs permit first last) :
    (pool.confined permit).Runs permit first last := by
  induction run with
  | refl => exact .refl
  | tail _ step ih =>
    obtain ⟨moved, permitted⟩ := step
    apply Relation.ReflTransGen.tail ih
    constructor
    · cases moved with
      | environment evolved => exact .environment ⟨evolved, permitted⟩
      | spawn order => exact .spawn order
      | perform task running reply allowed => exact .perform task running reply allowed
    · exact permitted

theorem obedient_empty (world : World) : pool.Obedient rely guarantee ⟨[], world⟩ := by
  intro task program running
  cases running

end TaskPool

end Axe

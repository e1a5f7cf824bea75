import Axe.TaskPool

namespace Axe

/-!
# Replaying interleavings

A script says which task is answered next, how, and how often; it also starts
tasks and moves the world.  A script that can be replayed is a run of the pool.
-/

inductive PoolEvent (Move Order Manner : Type) where
  | world (move : Move)
  | spawn (order : Order)
  | answer (task : Nat) (manner : Manner) (count : Nat)

/-- How scripted steps of the world and answers to tasks are computed. -/
structure PoolResponder {api : Interface} {Error World Order : Type}
    (pool : TaskPool api Error World Order) (Move Manner : Type) where
  move : Move → World → Option World
  move_sound : ∀ {step world later}, move step world = some later → pool.evolve world later
  reply : Manner → Nat → World → (op : api.Call) → Option (api.Reply op)
  reply_sound : ∀ {manner task world op answer},
      reply manner task world op = some answer → pool.allowed task world op answer

instance TaskPool.Permit.decidableAnything {World : Type} (world later : World) :
    Decidable (TaskPool.Permit.anything world later) :=
  .isTrue trivial

namespace PoolResponder

variable {api : Interface} {Error World Order Move Manner : Type}
variable {pool : TaskPool api Error World Order} (responder : PoolResponder pool Move Manner)
variable (permit : TaskPool.Permit World) [∀ world later, Decidable (permit world later)]

def allow (first second : PoolState api Error World) : Option (PoolState api Error World) :=
  if permit first.world second.world then some second else none

def answerCall (task : Nat) (manner : Manner) (state : PoolState api Error World) :
    Option (PoolState api Error World) :=
  match state.tasks[task]? with
  | some (.call op next) =>
    match responder.reply manner task state.world op with
    | some answer =>
      allow permit state
        ⟨state.tasks.set task (next answer), pool.react task op answer state.world⟩
    | none => none
  | _ => none

def answerCalls (task : Nat) (manner : Manner) :
    Nat → PoolState api Error World → Option (PoolState api Error World)
  | 0, state => some state
  | count + 1, state =>
    match answerCall responder permit task manner state with
    | some next => answerCalls task manner count next
    | none => none

def playEvent (state : PoolState api Error World) :
    PoolEvent Move Order Manner → Option (PoolState api Error World)
  | .world step =>
    match responder.move step state.world with
    | some later => allow permit state ⟨state.tasks, later⟩
    | none => none
  | .spawn order => allow permit state ⟨state.tasks ++ [pool.program order], state.world⟩
  | .answer task manner count => answerCalls responder permit task manner count state

def play : List (PoolEvent Move Order Manner) → PoolState api Error World →
      Option (PoolState api Error World)
  | [], state => some state
  | event :: rest, state =>
    match playEvent responder permit state event with
    | some next => play rest next
    | none => none

variable {responder} {permit} {first second : PoolState api Error World}

theorem allow_runs {last : PoolState api Error World} (step : pool.Step first second)
    (allowed : allow permit first second = some last) :
    pool.Runs permit first last := by
  obtain ⟨permitted, same⟩ := Option.ite_none_right_eq_some.mp allowed
  cases same
  exact Relation.ReflTransGen.single ⟨step, permitted⟩

theorem answerCall_runs {task : Nat} {manner : Manner}
    (played : answerCall responder permit task manner first = some second) :
    pool.Runs permit first second := by
  unfold answerCall at played
  split at played
  · rename_i op next running
    split at played
    · rename_i answer answered
      exact allow_runs (.perform task running answer (responder.reply_sound answered)) played
    · cases played
  · cases played

theorem answerCalls_runs {task : Nat} {manner : Manner} {count : Nat}
    (played : answerCalls responder permit task manner count first = some second) :
    pool.Runs permit first second := by
  induction count generalizing first with
  | zero =>
    cases played
    exact .refl
  | succ count ih =>
    simp only [answerCalls] at played
    split at played
    · rename_i next answered
      exact (answerCall_runs answered).trans (ih played)
    · cases played

theorem playEvent_runs {event : PoolEvent Move Order Manner}
    (played : playEvent responder permit first event = some second) :
    pool.Runs permit first second := by
  cases event with
  | world step =>
    simp only [playEvent] at played
    split at played
    · rename_i later moved
      exact allow_runs (.environment (responder.move_sound moved)) played
    · cases played
  | spawn order => exact allow_runs (.spawn order) played
  | answer task manner count => exact answerCalls_runs played

theorem play_runs {script : List (PoolEvent Move Order Manner)}
    (played : play responder permit script first = some second) :
    pool.Runs permit first second := by
  induction script generalizing first with
  | nil =>
    cases played
    exact .refl
  | cons event rest ih =>
    simp only [play] at played
    split at played
    · rename_i next moved
      exact (playEvent_runs moved).trans (ih played)
    · cases played

theorem exists_run {script : List (PoolEvent Move Order Manner)}
    {test : PoolState api Error World → Bool}
    (passes : (play responder permit script first).any test = true) :
    ∃ last, pool.Runs permit first last ∧ test last = true := by
  obtain ⟨last, played, passed⟩ := (Option.any_eq_true _ _).mp passes
  exact ⟨last, play_runs played, passed⟩

end PoolResponder

end Axe

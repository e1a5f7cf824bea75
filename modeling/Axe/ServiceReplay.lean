import Axe.CrashService

namespace Axe

/-!
# Replaying runs of a service

A script lists what happens to a service: steps of the world, launches, stops,
and a number of calls that are answered in some manner.  Replaying the script
computes where the service ends, and a script that can be replayed is a run.
-/

inductive Event (Move Launch Manner : Type) where
  | world (move : Move)
  | launch (order : Launch)
  | answer (manner : Manner) (count : Nat)
  | stop

/-- How scripted steps of the world and answers to calls are computed. -/
structure Responder {api : Interface} {Error Local World Launch : Type}
    (service : Service api Error Local World Launch) (Move Manner : Type) where
  move : Move → World → Option World
  move_sound : ∀ {step world later},
      move step world = some later → service.machine.evolve world later
  reply : Manner → Local → World → (op : api.Call) → Option (api.Reply op)
  reply_sound : ∀ {manner here world op answer}, reply manner here world op = some answer →
        service.machine.allowed here world op answer

instance {Local World : Type} (here : Local) (world : World) (here' : Local) (world' : World) :
    Decidable (Service.Permit.anything here world here' world') :=
  .isTrue trivial

namespace Responder

variable {api : Interface} {Error Local World Launch Move Manner : Type}
variable {service : Service api Error Local World Launch}
variable (responder : Responder service Move Manner) (permit : Service.Permit Local World)
variable [∀ here world here' world', Decidable (permit here world here' world')]

def allow (first second : Config api Error Local World) : Option (Config api Error Local World) :=
  if permit first.here first.world second.here second.world then some second else none

def answerCalls (manner : Manner) : Nat → Config api Error Local World →
      Option (Config api Error Local World)
  | 0, config => some config
  | count + 1, ⟨.busy (.call op next), here, world⟩ =>
    match responder.reply manner here world op with
    | none => none
    | some answer =>
      let after := service.machine.react op answer here world
      match
        allow permit ⟨.busy (.call op next), here, world⟩
          ⟨.busy (next answer), after.1, after.2⟩
      with
      | none => none
      | some config => answerCalls manner count config
  | _, config => some config

def playEvent : Event Move Launch Manner → Config api Error Local World →
      Option (Config api Error Local World)
  | .world step, ⟨activity, here, world⟩ =>
    match responder.move step world with
    | none => none
    | some later => allow permit ⟨activity, here, world⟩ ⟨activity, here, later⟩
  | .launch order, ⟨.idle, here, world⟩ =>
    allow permit ⟨.idle, here, world⟩
      ⟨.busy (service.program order), service.boot order here, world⟩
  | .answer manner count, config => answerCalls responder permit manner count config
  | .stop, ⟨.busy program, here, world⟩ =>
    allow permit ⟨.busy program, here, world⟩ ⟨.idle, here, world⟩
  | _, _ => none

def play : List (Event Move Launch Manner) → Config api Error Local World →
      Option (Config api Error Local World)
  | [], config => some config
  | event :: rest, config =>
    match playEvent responder permit event config with
    | none => none
    | some next => play rest next

variable {responder} {permit} {first second : Config api Error Local World}

theorem allow_runs {last : Config api Error Local World} (step : service.Step first second)
    (allowed : allow permit first second = some last) :
    service.Runs permit first last := by
  unfold allow at allowed
  split at allowed
  · rename_i permitted
    cases allowed
    exact Relation.ReflTransGen.single ⟨step, permitted⟩
  · cases allowed

theorem answerCalls_runs {manner : Manner} {count : Nat}
    (played : answerCalls responder permit manner count first = some second) :
    service.Runs permit first second := by
  induction count generalizing first with
  | zero =>
    cases played
    exact .refl
  | succ count ih =>
    obtain ⟨activity, here, world⟩ := first
    cases activity with
    | idle =>
      cases played
      exact .refl
    | busy program =>
      cases program with
      | done value =>
        cases played
        exact .refl
      | fail error =>
        cases played
        exact .refl
      | call op next =>
        simp only [answerCalls] at played
        split at played
        · cases played
        · rename_i answer answered
          split at played
          · cases played
          · rename_i config allowed
            have step := allow_runs (Service.Step.perform answer (responder.reply_sound answered))
                allowed
            exact step.trans (ih played)

theorem playEvent_runs {event : Event Move Launch Manner}
    (played : playEvent responder permit event first = some second) :
    service.Runs permit first second := by
  obtain ⟨activity, here, world⟩ := first
  cases event with
  | world step =>
    simp only [playEvent] at played
    split at played
    · cases played
    · rename_i later moved
      exact allow_runs (.environment (responder.move_sound moved)) played
  | launch order =>
    cases activity with
    | idle => exact allow_runs (.launch order) played
    | busy program => cases played
  | answer manner count => exact answerCalls_runs played
  | stop =>
    cases activity with
    | idle => cases played
    | busy program => exact allow_runs .stop played

theorem play_runs {script : List (Event Move Launch Manner)}
    (played : play responder permit script first = some second) :
    service.Runs permit first second := by
  induction script generalizing first with
  | nil =>
    cases played
    exact .refl
  | cons event rest ih =>
    simp only [play] at played
    split at played
    · cases played
    · rename_i next moved
      exact (playEvent_runs moved).trans (ih played)

theorem exists_run {script : List (Event Move Launch Manner)}
    {test : Config api Error Local World → Bool}
    (passes : (play responder permit script first).any test = true) :
    ∃ last, service.Runs permit first last ∧ test last = true := by
  cases played : play responder permit script first with
  | none => simp [played] at passes
  | some last => exact ⟨last, play_runs played, by simpa [played] using passes⟩

end Responder

end Axe

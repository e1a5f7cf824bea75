import Axe.ProgramContract

namespace Axe

/-!
# Executions of programs

A program that runs to its end has a result and leaves the two states somewhere.
This is the same reading of a program as that of the contracts: a contract says
how all executions end.
-/

variable {api : Interface} {Error Value Local World : Type}

/-- A program ran to its end with a result, from some states to others. -/
inductive Executes (machine : Machine api Local World) :
    Program api Error Value → Local → World → Except Error Value → Local → World → Prop where
  | done
      {value : Value}
      {here : Local}
      {world : World} :
      Executes machine (.done value) here world (.ok value) here world
  | fail
      {error : Error}
      {here : Local}
      {world : World} :
      Executes machine (.fail error) here world (.error error) here world
  | call
      {op : api.Call}
      {next : api.Reply op → Program api Error Value}
      {here here' : Local}
      {world later world' : World}
      {result : Except Error Value}
      (reply : api.Reply op)
      (evolved : machine.Evolves world later)
      (allowed : machine.allowed here later op reply)
      (rest : Executes machine (next reply) (machine.react op reply here later).1
          (machine.react op reply here later).2 result here' world') :
      Executes machine (.call op next) here world result here' world'

/-- The machine with fewer answers. -/
def Machine.restrict (machine : Machine api Local World)
    (only : (op : api.Call) → api.Reply op → Prop) :
    Machine api Local World :=
  { machine with
    allowed := fun here world op reply =>
      machine.allowed here world op reply ∧ only op reply }

/-- Every call has an answer. -/
def Machine.Answering (machine : Machine api Local World) : Prop :=
  ∀ here world op, ∃ reply, machine.allowed here world op reply

namespace Executes

variable {machine : Machine api Local World} {program : Program api Error Value}
variable {here here' : Local} {world world' : World} {result : Except Error Value}

theorem exists_of_answering (answering : machine.Answering)
    (program : Program api Error Value) (here : Local) (world : World) :
    ∃ result here' world', Executes machine program here world result here' world' := by
  induction program generalizing here world with
  | done value => exact ⟨_, _, _, .done⟩
  | fail error => exact ⟨_, _, _, .fail⟩
  | call op next ih =>
    rcases answering here world op with ⟨reply, allowed⟩
    rcases ih reply (machine.react op reply here world).1
        (machine.react op reply here world).2 with ⟨_, _, _, rest⟩
    exact ⟨_, _, _, .call reply .refl allowed rest⟩

variable {Result : Type} {later : Value → Program api Error Result}

theorem bind_cases {result : Except Error Result}
    (executes : Executes machine (program.bind later) here world result here' world') :
    (∃ value middle between, Executes machine program here world (.ok value) middle between ∧
          Executes machine (later value) middle between result here' world') ∨
      ∃ error, result = .error error ∧
          Executes machine program here world (.error error) here' world' := by
  induction program generalizing here world with
  | done value => exact .inl ⟨value, here, world, .done, executes⟩
  | fail error =>
    cases executes
    exact .inr ⟨error, rfl, .fail⟩
  | call op next ih =>
    cases executes with
    | call reply evolved allowed rest =>
      rcases ih reply rest with
        ⟨value, middle, between, first, second⟩ | ⟨error, failed, first⟩
      · exact .inl ⟨value, middle, between, .call reply evolved allowed first, second⟩
      · exact .inr ⟨error, failed, .call reply evolved allowed first⟩

theorem bind_ok {result : Result}
    (executes : Executes machine (program.bind later) here world (.ok result) here' world') :
    ∃ value middle between, Executes machine program here world (.ok value) middle between ∧
        Executes machine (later value) middle between (.ok result) here' world' := by
  rcases executes.bind_cases with both | ⟨_, failed, _⟩
  · exact both
  · cases failed

theorem andThen {value : Value} {middle : Local} {between : World} {result : Except Error Result}
    (first : Executes machine program here world (.ok value) middle between)
    (second : Executes machine (later value) middle between result here' world') :
    Executes machine (program.bind later) here world result here' world' := by
  induction program generalizing here world with
  | done found =>
    cases first
    exact second
  | fail error => cases first
  | call op next ih =>
    cases first with
    | call reply evolved allowed rest => exact .call reply evolved allowed (ih reply rest)

variable {error : Error}

theorem ensure_of {condition : Prop} [Decidable condition] (holds : condition) :
    Executes machine (Program.ensure condition error) here world (.ok ()) here world := by
  rw [Program.ensure, if_pos holds]
  exact .done

theorem ensure_ok {condition : Prop} [Decidable condition] {value : Unit}
    (executes :
      Executes machine (Program.ensure condition error) here world (.ok value) here' world') :
    condition ∧ here = here' ∧ world = world' := by
  unfold Program.ensure at executes
  split at executes
  · rename_i holds
    cases executes
    exact ⟨holds, rfl, rfl⟩
  · cases executes

theorem orFail_ok {option : Option Value} {value : Value}
    (executes :
      Executes machine (Program.orFail option error) here world (.ok value) here' world') :
    option = some value ∧ here = here' ∧ world = world' := by
  cases option with
  | none => cases executes
  | some found =>
    cases executes
    exact ⟨rfl, rfl, rfl⟩

end Executes

end Axe

import Axe.ProgramGuard

namespace Axe

/-!
# Programs that only ask

A program whose calls change nothing can be described by its tree alone: which
calls it makes, and what its values are whatever the answers were.  In a machine
that lets these calls change nothing, it ends in the state it started in.
-/

variable {api : Interface} {Error Failure Value Result Item Local World : Type}
variable {may : api.Call → Prop}

namespace Program

/-- All calls are of one kind, and the result has a property. -/
def Yields (may : api.Call → Prop) (ends : Value → Prop) : Program api Error Value → Prop
  | .done value => ends value
  | .fail _ => True
  | .call op next => may op ∧ ∀ reply, (next reply).Yields may ends

namespace Yields

variable {ends : Value → Prop} {program : Program api Error Value}

theorem bind {later : Value → Program api Error Result} {ends' : Result → Prop}
    (first : program.Yields may ends)
    (second : ∀ value, ends value → (later value).Yields may ends') :
    (program.bind later).Yields may ends' := by
  induction program with
  | done value => exact second value first
  | fail error => trivial
  | call op next ih => exact ⟨first.1, fun reply => ih reply (first.2 reply)⟩

theorem only (yields : program.Yields may ends) : program.Only may := by
  induction program with
  | done value => trivial
  | fail error => trivial
  | call op next ih => exact ⟨yields.1, fun reply => ih reply (yields.2 reply)⟩

theorem attempt (yields : program.Yields may ends) :
    Yields may (fun outcome => ∀ value, outcome = .ok value → ends value)
      (program.attempt : Program api Failure (Except Error Value)) := by
  induction program with
  | done value =>
    rintro _ ⟨⟩
    exact yields
  | fail error => rintro _ ⟨⟩
  | call op next ih => exact ⟨yields.1, fun reply => ih reply (yields.2 reply)⟩

theorem ask_bind {op : api.Call}
    {later : api.Reply op → Program api Error Value} (permitted : may op)
    (rest : ∀ reply, (later reply).Yields may ends) :
    ((Program.perform op).bind later).Yields may ends :=
  ⟨permitted, rest⟩

theorem orFail_bind {option : Option Result} {error : Error}
    {later : Result → Program api Error Value}
    (rest : ∀ value, option = some value → (later value).Yields may ends) :
    ((Program.orFail option error).bind later).Yields may ends := by
  cases option with
  | none => trivial
  | some value => exact rest value rfl

theorem ensure_bind {condition : Prop} [Decidable condition] {error : Error}
    {later : Unit → Program api Error Value} (rest : condition → (later ()).Yields may ends) :
    ((Program.ensure condition error).bind later).Yields may ends := by
  unfold Program.ensure
  split
  · exact rest ‹_›
  · trivial

variable {machine : Machine api Local World} {promise : Promise Local World}
variable {here : Local} {world : World}

theorem meets (yields : program.Yields may ends) (reads : ∀ op, may op → machine.Reads op)
    (stutter : ∀ here world, promise here world here world) :
    Meets machine promise program
      (fun value here' later => here' = here ∧ machine.Evolves world later ∧ ends value)
      (fun _ here' later => here' = here ∧ machine.Evolves world later) here world := by
  induction program generalizing world with
  | done value => exact ⟨rfl, .refl, yields⟩
  | fail error => exact ⟨rfl, .refl⟩
  | call op next ih =>
    intro later evolved reply _
    rw [reads op yields.1 reply here later]
    refine ⟨stutter here later, (ih reply (yields.2 reply)).weaken ?_ ?_⟩
    · intro value _ last reached
      exact ⟨reached.1, evolved.trans reached.2.1, reached.2.2⟩
    · intro _ _ last reached
      exact ⟨reached.1, evolved.trans reached.2⟩

end Yields

end Program

end Axe

import Axe.Retry
import Axe.SubmissionNetwork

namespace Axe.Network

/-!
# Contracts of calls that submit envelopes

A call that keeps this contract takes only safe steps of the network: it hands
the network nothing but the envelope that it signed last, and it signs for
another slot only when its earlier envelopes are closed.  The rules below are
those of the parts of such a call, for any machine whose world drifts.
-/

variable {Envelope Slot : Type} {slot : Envelope → Slot} {counts : Bool → Prop}
variable {api : Interface} {Error Failure Value Item Local World : Type}

/-- The world around the call only drifts. -/
def Surrounds (machine : Machine api Local World) (view : World → Network slot) : Prop :=
  ∀ {world later}, machine.evolve world later → Drift (view world) (view later)

/-- Every request of a program is a safe step of the network, and it ends as required. -/
abbrev Submits
    (counts : Bool → Prop)
    (machine : Machine api Local World)
    (view : World → Network slot)
    (program : Program api Error Value)
    (ends : Value → Local → World → Prop)
    (fails : Error → Local → World → Prop)
    (here : Local)
    (world : World) : Prop :=
  Meets machine (fun _ world _ later => SafeStep counts (view world) (view later)) program
    ends fails here world

/-- A property that the world around the call does not change. -/
def Stable (machine : Machine api Local World) (kept : Local → World → Prop) : Prop :=
  ∀ here world later, machine.evolve world later → kept here world → kept here later

/-- The envelope is the one that the call signed last. -/
def Latest (network : Network slot) (envelope : Envelope) : Prop :=
  network.ours.getLast? = some envelope

theorem latest_signed (envelope : Envelope) (network : Network slot) :
    Latest { network with ours := network.ours ++ [envelope] } envelope := by
  simp [Latest]

theorem Latest.drift
    {network later : Network slot}
    {envelope : Envelope}
    (latest : network.Latest envelope)
    (drifts : Drift network later) :
    later.Latest envelope := by
  unfold Latest
  rw [drifts.ours]
  exact latest

variable {machine : Machine api Local World} {view : World → Network slot}
variable {kept : Local → World → Prop} {here : Local} {world : World}

theorem Stable.evolves
    (stable : Stable machine kept)
    (here : Local)
    {later : World}
    (evolved : machine.Evolves world later)
    (holds : kept here world) :
    kept here later := by
  induction evolved with
  | refl => exact holds
  | tail _ step ih => exact stable here _ _ step ih

namespace Submits

variable {program : Program api Error Value}
variable {ends : Value → Local → World → Prop} {fails : Error → Local → World → Prop}
variable {op : api.Call}

/-- A question leaves a stable property as it is. -/
theorem ask
    {ends : api.Reply op → Local → World → Prop}
    (stable : Stable machine kept)
    (reads : machine.Reads op)
    (start : kept here world)
    (rest : ∀ moved reply, kept here moved →
      machine.allowed here moved op reply → ends reply here moved) :
    Submits counts machine view (Program.perform op : Program api Error _)
      ends fails here world := by
  apply Meets.read reads
  · exact fun _ world => SafeStep.refl (view world)
  · intro moved evolved reply allowed
    exact rest moved reply (stable.evolves here evolved start) allowed

theorem ask_bind
    {later : api.Reply op → Program api Error Value}
    (stable : Stable machine kept)
    (reads : machine.Reads op)
    (start : kept here world)
    (rest : ∀ moved reply, kept here moved → machine.allowed here moved op reply →
          Submits counts machine view (later reply) ends fails here moved) :
    Submits counts machine view ((Program.perform op).bind later) ends fails here world := by
  apply Meets.read_bind reads
  · exact fun _ world => SafeStep.refl (view world)
  · intro moved evolved reply allowed
    exact rest moved reply (stable.evolves here evolved start) allowed

/-- A program of questions leaves a stable property as it is. -/
theorem quietly
    (stable : Stable machine kept)
    (only : program.Only machine.Reads)
    (start : kept here world) :
    Submits counts machine view program
      (fun _ here world => kept here world)
      (fun _ here world => kept here world) here world := by
  induction program generalizing world with
  | done value => exact start
  | fail error => exact start
  | call op next ih =>
    intro moved evolved reply _
    have keptNow := stable.evolves here evolved start
    rw [only.1 reply here moved]
    exact ⟨SafeStep.refl (view moved), ih reply (only.2 reply) keptNow⟩

/-- A request that is repeated ends as its last attempt does. -/
theorem retry
    {isTransient : Failure → Bool}
    {pause : Program api Error Unit}
    {request : Program api Error (Except Failure Value)}
    {ends : Except Failure Value → Local → World → Prop}
    (asked : ∀ here world, kept here world →
      Submits counts machine view request ends fails here world)
    (again : ∀ error here world, ends (.error error) here world → kept here world)
    (paused : ∀ here world, kept here world → Submits counts machine view pause
      (fun _ here world => kept here world) fails here world)
    (attempts : Nat)
    (start : kept here world) :
    Submits counts machine view (retryAsync attempts isTransient pause request)
      ends fails here world :=
  Meets.retryTimes asked again paused (attempts - 1) start

end Submits

/-- A call that keeps the contract lands at most one of its envelopes. -/
theorem at_most_once_of_submits
    {permit : Service.Permit Local World}
    {program : Program api Error Unit}
    {ends : Unit → Local → World → Prop}
    {fails : Error → Local → World → Prop}
    {last : Config api Error Local World}
    (surrounds : Surrounds machine view)
    (submits : Submits counts machine view program ends fails here world)
    (run : (Service.once machine).Runs permit ⟨.busy program, here, world⟩ last)
    (fresh : (view world).ours = [])
    {first second : Envelope}
    (firstOwn : first ∈ (view last.world).ours)
    (secondOwn : second ∈ (view last.world).ours)
    (firstLanded : Counted counts (view last.world) first)
    (secondLanded : Counted counts (view last.world) second) :
    first = second :=
  at_most_once surrounds run
    (submits.weaken (fun _ _ _ _ => trivial) (fun _ _ _ _ => trivial))
    fresh firstOwn secondOwn firstLanded secondLanded

end Axe.Network

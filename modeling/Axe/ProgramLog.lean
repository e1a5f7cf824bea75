import Axe.ProgramExecution
import Axe.ProgramGuard

namespace Axe

/-!
# Machines with a log

A machine can write down every call with its reply.  What a program did, in
which order and with which answers, is then part of the world it ends in.
-/

/-- A call with its reply. -/
abbrev Exchange (api : Interface) : Type := (op : api.Call) × api.Reply op

variable {api : Interface} {Error Value Local World : Type}

/-- The same machine, which also writes down every call with its reply. -/
def Machine.logged (machine : Machine api Local World) :
    Machine api Local (World × List (Exchange api)) where
  allowed := fun here world op reply => machine.allowed here world.1 op reply
  react := fun op reply here world =>
    ((machine.react op reply here world.1).1,
      (machine.react op reply here world.1).2, world.2 ++ [⟨op, reply⟩])
  evolve := fun world later => machine.evolve world.1 later.1 ∧ later.2 = world.2

theorem Machine.Answering.logged {machine : Machine api Local World}
    (answering : machine.Answering) :
    machine.logged.Answering :=
  fun here world op => answering here world.1 op

namespace Executes

variable {machine : Machine api Local World} {program : Program api Error Value}
variable {here here' : Local} {world world' : World × List (Exchange api)}
variable {result : Except Error Value}

theorem log_of_evolves (evolved : machine.logged.Evolves world world') : world'.2 = world.2 := by
  induction evolved with
  | refl => rfl
  | tail _ step ih => exact step.2.trans ih

theorem log_of_only {may : api.Call → Prop}
    (executes : Executes machine.logged program here world result here' world')
    (only : program.Only may) :
    ∃ added, world'.2 = world.2 ++ added ∧ ∀ exchange ∈ added, may exchange.1 := by
  induction executes with
  | done => exact ⟨[], (List.append_nil _).symm, by simp⟩
  | fail => exact ⟨[], (List.append_nil _).symm, by simp⟩
  | @call op next here here' world later world' result reply evolved allowed rest
      ih =>
      obtain ⟨added, grown, listed⟩ := ih (only.2 reply)
      refine ⟨⟨op, reply⟩ :: added, ?_, ?_⟩
      · rw [grown]
        simp [Machine.logged, log_of_evolves evolved]
      · exact List.forall_mem_cons.mpr ⟨only.1, listed⟩

theorem log_grows (executes : Executes machine.logged program here world result here' world') :
    ∃ added, world'.2 = world.2 ++ added := by
  have anything : ∀ program : Program api Error Value, program.Only fun _ => True := by
    intro program
    induction program with
    | done value => trivial
    | fail error => trivial
    | call op next ih => exact ⟨trivial, ih⟩
  obtain ⟨added, grown, _⟩ := executes.log_of_only (anything program)
  exact ⟨added, grown⟩

variable {op : api.Call}

theorem call_cases {next : api.Reply op → Program api Error Value}
    (executes : Executes machine.logged (.call op next) here world result here' world') :
    ∃ reply middle between, between.2 = world.2 ++ [⟨op, reply⟩] ∧
        Executes machine.logged (next reply) middle between result here' world' := by
  cases executes with
  | call reply evolved allowed rest =>
    exact ⟨reply, _, _, by simp [Machine.logged, log_of_evolves evolved], rest⟩

theorem perform_ok {reply : api.Reply op}
    (executes : Executes machine.logged (Program.perform op : Program api Error _)
        here world (.ok reply) here' world') :
    ∃ later, machine.allowed here later op reply ∧ here' = (machine.react op reply here later).1 ∧
        world'.2 = world.2 ++ [⟨op, reply⟩] := by
  cases executes with
  | @call _ _ _ _ _ later _ _ _ evolved allowed rest =>
    cases rest
    refine ⟨later.1, allowed, rfl, ?_⟩
    simp [Machine.logged, log_of_evolves evolved]

theorem require_ok {unpack : api.Reply op → Option Value} {error : Error} {value : Value}
    (executes : Executes machine.logged (Program.require op unpack error)
        here world (.ok value) here' world') :
    ∃ reply, unpack reply = some value ∧ world'.2 = world.2 ++ [⟨op, reply⟩] := by
  cases executes with
  | @call _ _ _ _ _ later _ _ reply evolved allowed rest =>
    obtain ⟨unpacked, _, same⟩ := rest.orFail_ok
    refine ⟨reply, unpacked, ?_⟩
    rw [← same]
    simp [Machine.logged, log_of_evolves evolved]

end Executes

end Axe

import Axe.ProgramCheck
import Axe.ProgramLog

namespace Axe

/-!
# Programs in front of fixed answers

Where nothing changes, every call has one answer and a program has one run.  That run
can be computed: the calls it makes, in order, and how it ends.
-/

variable {api : Interface} {Error Value Result : Type}

/-- A fixed answer to every call. -/
abbrev Oracle (api : Interface) : Type := (op : api.Call) → api.Reply op

namespace Program

/-- The calls and the result of a program with an oracle. -/
def evaluate (oracle : Oracle api) : Program api Error Value → List api.Call × Except Error Value
  | .done value => ([], .ok value)
  | .fail error => ([], .error error)
  | .call op next =>
    let rest := (next (oracle op)).evaluate oracle
    (op :: rest.1, rest.2)

variable {oracle : Oracle api} {program : Program api Error Value}
variable {later : Value → Program api Error Result} {calls : List api.Call}

theorem evaluate_bind {more : List api.Call} {value : Value} {result : Except Error Result}
    (first : program.evaluate oracle = (calls, .ok value))
    (second : (later value).evaluate oracle = (more, result)) :
    (program.bind later).evaluate oracle = (calls ++ more, result) := by
  induction program generalizing calls with
  | done found =>
    cases first
    exact second
  | fail error => cases first
  | call op next ih =>
    simp only [evaluate, Prod.mk.injEq] at first
    rcases first with ⟨rfl, ended⟩
    have rest := ih (oracle op) (Prod.ext rfl ended)
    simp [Program.bind, evaluate, rest]

theorem evaluate_congr {other : Oracle api} {result : Except Error Value}
    (evaluates : program.evaluate oracle = (calls, result))
    (agrees : ∀ op ∈ calls, other op = oracle op) :
    program.evaluate other = (calls, result) := by
  induction program generalizing calls with
  | done value =>
    cases evaluates
    rfl
  | fail error =>
    cases evaluates
    rfl
  | call op next ih =>
    simp only [evaluate, Prod.mk.injEq] at evaluates
    rcases evaluates with ⟨rfl, ended⟩
    have first := agrees op List.mem_cons_self
    have rest := ih (oracle op) (Prod.ext rfl ended)
      (fun op member => agrees op (List.mem_cons_of_mem _ member))
    simp [evaluate, first, rest]

end Program

theorem Guarded.of_evaluate {Local World : Type} {machine : Machine api Local World}
    {guard : Local → World → api.Call → Prop} {oracle : Oracle api}
    {program : Program api Error Value} {onDone : Value → Local → World → Prop} {here : Local}
    {world : World} (reads : ∀ op, machine.Reads op)
    (allowed : ∀ op, machine.allowed here world op (oracle op))
    (guarded : Guarded machine guard program onDone here world) :
    ∀ op ∈ (program.evaluate oracle).1, guard here world op := by
  induction program with
  | done value => simp [Program.evaluate]
  | fail error => simp [Program.evaluate]
  | call op next ih =>
    rcases guarded world .refl with ⟨first, rest⟩
    have continues := rest (oracle op) (allowed op)
    rw [reads op (oracle op) here world] at continues
    intro other member
    rcases List.mem_cons.mp member with rfl | later
    · exact first
    · exact ih (oracle op) continues other later

end Axe

import Axe.ProgramCheck
import Axe.ProgramLog

namespace Axe.Program

/-!
# Traces of a program

What a program did in one run is the list of its calls with their replies, and how it
ended.  A property of traces holds of a program if it holds whatever the replies are.
-/

variable {api : Interface} {Error Value Result : Type}

/-- Whatever the replies are, the exchanges and the end of the program are as described. -/
def Traces : Program api Error Value → (List (Exchange api) → Except Error Value → Prop) → Prop
  | .done value, ends => ends [] (.ok value)
  | .fail error, ends => ends [] (.error error)
  | .call op next, ends =>
    ∀ reply, (next reply).Traces fun exchanges => ends (⟨op, reply⟩ :: exchanges)

/-- Any answer may be given. -/
def freeMachine (api : Interface) : Machine api Unit Unit where
  allowed := fun _ _ _ _ => True
  react := fun _ _ here world => (here, world)
  evolve := fun _ _ => False

namespace Traces

variable {program : Program api Error Value}
variable {ends ends' : List (Exchange api) → Except Error Value → Prop}

theorem mono (traces : program.Traces ends)
    (weaker : ∀ exchanges outcome, ends exchanges outcome → ends' exchanges outcome) :
    program.Traces ends' := by
  induction program generalizing ends ends' with
  | done value => exact weaker _ _ traces
  | fail error => exact weaker _ _ traces
  | call op next ih =>
    intro reply
    exact ih reply (traces reply) fun _ _ => weaker _ _

theorem always (holds : ∀ exchanges outcome, ends exchanges outcome) : program.Traces ends := by
  induction program generalizing ends with
  | done value => exact holds _ _
  | fail error => exact holds _ _
  | call op next ih =>
    intro reply
    exact ih reply fun _ _ => holds _ _

theorem bind {later : Value → Program api Error Result}
    {ends' : List (Exchange api) → Except Error Result → Prop} (first : program.Traces ends)
    (fails : ∀ exchanges error, ends exchanges (.error error) → ends' exchanges (.error error))
    (rest : ∀ exchanges value, ends exchanges (.ok value) →
        (later value).Traces fun more => ends' (exchanges ++ more)) :
    (program.bind later).Traces ends' := by
  induction program generalizing ends ends' with
  | done value => exact rest [] value first
  | fail error => exact fails [] error first
  | call op next ih =>
    intro reply
    apply ih reply (first reply)
    · intro exchanges error
      exact fails _ error
    · intro exchanges value
      exact rest _ value

/-- Some run has only replies of a kind that every call can have. -/
theorem exists_run
    {good : Exchange api → Prop}
    (answers : ∀ op, ∃ reply, good ⟨op, reply⟩)
    (first : program.Traces ends)
    (second : program.Traces ends') :
    ∃ exchanges outcome, ends exchanges outcome ∧ ends' exchanges outcome ∧
      ∀ exchange ∈ exchanges, good exchange := by
  induction program generalizing ends ends' with
  | done value => exact ⟨[], _, first, second, by simp⟩
  | fail error => exact ⟨[], _, first, second, by simp⟩
  | call op next ih =>
    obtain ⟨reply, isGood⟩ := answers op
    obtain ⟨exchanges, outcome, one, two, all⟩ := ih reply (first reply) (second reply)
    exact ⟨_, outcome, one, two, List.forall_mem_cons.mpr ⟨isGood, all⟩⟩

theorem of_only {may : api.Call → Prop} (only : program.Only may) :
    program.Traces fun exchanges _ => ∀ exchange ∈ exchanges, may exchange.1 := by
  induction program with
  | done value => simp [Traces]
  | fail error => simp [Traces]
  | call op next ih =>
    intro reply
    apply (ih reply (only.2 reply)).mono
    intro exchanges _ rest exchange member
    rcases List.mem_cons.mp member with rfl | later
    · exact only.1
    · exact rest exchange later

theorem of_executes (before : List (Exchange api))
    (holds : ∀ exchanges result, Executes (freeMachine api).logged program () ((), before) result ()
        ((), before ++ exchanges) → ends exchanges result) :
    program.Traces ends := by
  induction program generalizing before ends with
  | done value => exact holds [] _ (by rw [List.append_nil]; exact .done)
  | fail error => exact holds [] _ (by rw [List.append_nil]; exact .fail)
  | call op next ih =>
    intro reply
    apply ih reply (before ++ [⟨op, reply⟩])
    intro exchanges result executes
    rw [List.append_assoc] at executes
    exact holds _ _ (.call reply .refl trivial executes)

theorem check_bind {outcome : Except Error Result} {later : Result → Program api Error Value}
    (fails : ∀ error, outcome = .error error → ends [] (.error error))
    (rest : ∀ value, outcome = .ok value → (later value).Traces ends) :
    ((check outcome).bind later).Traces ends := by
  cases outcome with
  | ok value => exact rest value rfl
  | error error => exact fails error rfl

end Traces

end Axe.Program

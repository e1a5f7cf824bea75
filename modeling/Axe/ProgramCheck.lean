import Axe.Checks
import Axe.ProgramExecution
import Axe.ProgramInquiry

namespace Axe

/-!
# Checks inside programs

A pure check is a program that makes no call: it has the value of the check or stops
with its message.
-/

variable {api : Interface} {Error Value Result Local World : Type}
variable {machine : Machine api Local World}

def Program.check : Except Error Value → Program api Error Value
  | .ok value => .done value
  | .error error => .fail error

section Contracts

variable {promise : Promise Local World} {onFail : Error → Local → World → Prop}
variable {here : Local} {world : World} {outcome : Except Error Value}

theorem Meets.check {onDone : Value → Local → World → Prop}
    (ends : ∀ value, outcome = .ok value → onDone value here world)
    (fails : ∀ error, outcome = .error error → onFail error here world) :
    Meets machine promise
      (Program.check outcome : Program api Error Value) onDone onFail here world := by
  cases outcome with
  | ok value => exact ends value rfl
  | error error => exact fails error rfl

theorem Meets.check_bind {onDone : Result → Local → World → Prop}
    {later : Value → Program api Error Result}
    (rest : ∀ value, outcome = .ok value →
        Meets machine promise (later value) onDone onFail here world)
    (fails : ∀ error, outcome = .error error → onFail error here world) :
    Meets machine promise ((Program.check outcome).bind later) onDone onFail here world :=
  Meets.bind (Meets.check rest fails)

end Contracts

variable {outcome : Except Error Value} {later : Value → Program api Error Result}

theorem Program.Yields.check_bind {may : api.Call → Prop} {ends : Result → Prop}
    (rest : ∀ value, outcome = .ok value → (later value).Yields may ends) :
    ((Program.check outcome).bind later).Yields may ends := by
  cases outcome with
  | ok value => exact rest value rfl
  | error error => trivial

end Axe

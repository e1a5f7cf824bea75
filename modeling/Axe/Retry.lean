import Axe.ProgramInquiry
import Axe.TextSearch

namespace Axe

/-!
# Retrying requests

Requests to nodes are repeated while their errors look transient, a limited
number of times and with a pause before each repetition.
-/

def fallbackAttempts : Nat := 6

/-- What transient errors say. -/
def transientTexts : List String :=
  ["timeout", "timed out", "connection", "network", "502", "503", "504", "429",
    "too many requests", "bad gateway", "service unavailable", "gateway timeout",
    "server error", "state not available for pending block"]

def isTransientDefault (error : String) : Bool := mentionsAny transientTexts (lowered error)

section Programs

variable {api : Interface} {Error Failure Value Local World : Type}

def retryTimes (isTransient : Failure → Bool) (pause : Program api Error Unit)
    (request : Program api Error (Except Failure Value)) :
    Nat → Program api Error (Except Failure Value)
  | 0 => request
  | retries + 1 =>
    request.bind fun outcome =>
      match outcome with
      | .ok value => .done (.ok value)
      | .error error =>
        if isTransient error then
          pause.bind fun _ => retryTimes isTransient pause request retries
        else
          .done (.error error)

/-- Repeat a request after transient failures, a number of times. -/
def retryAsync (attempts : Nat) (isTransient : Failure → Bool) (pause : Program api Error Unit)
    (request : Program api Error (Except Failure Value)) :
    Program api Error (Except Failure Value) :=
  retryTimes isTransient pause request (attempts - 1)

variable {machine : Machine api Local World} {promise : Promise Local World}
variable {isTransient : Failure → Bool} {pause : Program api Error Unit}
variable {request : Program api Error (Except Failure Value)} {kept : Local → World → Prop}
variable {ends : Except Failure Value → Local → World → Prop}
variable {onFail : Error → Local → World → Prop}

/-- A request that is repeated ends as its last attempt does. -/
theorem Meets.retryTimes
    (asked : ∀ here world, kept here world →
      Meets machine promise request ends onFail here world)
    (again : ∀ error here world, ends (.error error) here world → kept here world)
    (paused : ∀ here world, kept here world →
      Meets machine promise pause (fun _ here world => kept here world)
      onFail here world)
    (retries : Nat)
    {here : Local}
    {world : World}
    (start : kept here world) :
    Meets machine promise (Axe.retryTimes isTransient pause request retries)
      ends onFail here world := by
  induction retries generalizing here world with
  | zero => exact asked here world start
  | succ retries ih =>
    apply (asked here world start).seq
    intro outcome here world reached
    cases outcome with
    | ok value => exact reached
    | error error =>
      by_cases transient : isTransient error
      · simp only [transient, if_true]
        apply (paused here world (again error here world reached)).seq
        intro _ here world keptNow
        exact ih keptNow
      · simp only [transient]
        exact reached

theorem Program.Only.retryTimes
    {may : api.Call → Prop}
    (asked : request.Only may)
    (paused : pause.Only may)
    (retries : Nat) :
    (Axe.retryTimes isTransient pause request retries).Only may := by
  induction retries with
  | zero => exact asked
  | succ retries ih =>
    apply asked.bind
    intro outcome
    cases outcome with
    | ok value => trivial
    | error error =>
      by_cases transient : isTransient error
      · simp only [transient, if_true]
        exact paused.bind fun _ => ih
      · simp only [transient]
        trivial

theorem Program.Yields.retryTimes {may : api.Call → Prop} {ends : Except Failure Value → Prop}
    (asked : request.Yields may ends) (paused : pause.Yields may fun _ => True) (retries : Nat) :
    (Axe.retryTimes isTransient pause request retries).Yields may ends := by
  induction retries with
  | zero => exact asked
  | succ retries ih =>
    apply asked.bind
    intro outcome isEnd
    cases outcome with
    | ok value => exact isEnd
    | error error =>
      by_cases transient : isTransient error
      · simp only [transient, if_true]
        exact paused.bind fun _ _ => ih
      · simp only [transient]
        exact isEnd

end Programs

end Axe

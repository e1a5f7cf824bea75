import Mathlib.Tactic.Common

namespace Axe

/-!
# Programs over an external interface

Asynchronous code is represented by the tree of its external calls.  A program
either has a value, has stopped with an error, or waits for the reply to one
call and continues with it.  Nothing happens between two calls, so the points
at which a process can be killed are exactly the nodes of the tree.

The interface is arbitrary: it lists the calls and the type of each reply.
-/

/-- The calls a program may make, and the type of the reply to each of them. -/
structure Interface where
  Call : Type
  Reply : Call → Type

/-- A program: a result, a failure, or a call with the rest for each reply. -/
inductive Program (api : Interface) (Error Value : Type) : Type where
  | done (value : Value)
  | fail (error : Error)
  | call
      (op : api.Call)
      (next : api.Reply op → Program api Error Value)

namespace Program

variable {api : Interface} {Error Failure Value Result Item : Type}

/-- Run one program, then a second one that may use its value. -/
protected def bind : Program api Error Value → (Value → Program api Error Result) →
    Program api Error Result
  | .done value, later => later value
  | .fail error, _ => .fail error
  | .call op next, later => .call op fun reply => (next reply).bind later

instance : Monad (Program api Error) where
  pure := .done
  bind := Program.bind

def perform (op : api.Call) : Program api Error (api.Reply op) := .call op .done

def ensure (condition : Prop) [Decidable condition] (error : Error) : Program api Error Unit :=
  if condition then .done () else .fail error

def orFail (option : Option Value) (error : Error) : Program api Error Value :=
  match option with
  | some value => .done value
  | none => .fail error

/-- Make a call and stop with an error unless its reply has a value. -/
def require (op : api.Call) (unpack : api.Reply op → Option Value) (error : Error) :
    Program api Error Value :=
  .call op fun reply => orFail (unpack reply) error

/-- Run a program and hand its outcome, failure included, to the caller. -/
def attempt : Program api Error Value → Program api Failure (Except Error Value)
  | .done value => .done (.ok value)
  | .fail error => .done (.error error)
  | .call op next => .call op fun reply => (next reply).attempt

/-- Run the body for every item in order. -/
def each (body : Item → Program api Error Unit) : List Item → Program api Error Unit
  | [] => .done ()
  | item :: rest => (body item).bind fun _ => each body rest

/-- What the search finds at the first item where it finds something. -/
def firstSome (search : Item → Program api Error (Option Value)) :
    List Item → Program api Error (Option Value)
  | [] => .done none
  | item :: rest =>
    (search item).bind fun found =>
      match found with
      | some value => .done (some value)
      | none => firstSome search rest

@[simp] theorem pure_eq (value : Value) : (pure value : Program api Error Value) = .done value :=
  rfl

@[simp] theorem bind_eq (program : Program api Error Value)
    (later : Value → Program api Error Result) :
    (program >>= later) = program.bind later :=
  rfl

end Program

end Axe

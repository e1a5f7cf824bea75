import Axe.Retry
import Axe.VerificationVerdicts

namespace Axe.Verification

open Hardened

/-!
# The calls of a load test

The sender of a load test starts its submissions as tasks and waits for them, or
for the next tick.

Its loops have no bound of their own.  A number that is asked for at the start
says how many rounds this run goes on for; it can be any number.
-/

/-- What a submission reports; a failed one has its reason. -/
structure TxMetrics where
  signature : String
  payloadHash : String
  sourceAddress : String
  sendInstant : Option Instant
  gmpDestinationChain : String
  gmpDestinationAddress : String
  failure : Option String
  deriving DecidableEq

def TxMetrics.isSuccess (metrics : TxMetrics) : Bool := metrics.failure.isNone

/-- What ends a wait of the sender for its tasks. -/
inductive Joined where
  | finished (metrics : TxMetrics)
  | died
  | tick
  deriving DecidableEq

inductive Call where
  | rounds
  | tick
  | shutdownRequested
  | spawn (keyIndex : Nat) (nonce : Option U64)
  | joinNext
  | tasksEmpty
  | abortAll
  | storeSendDone

def Call.Reply : Call → Type
  | rounds => Nat
  | tick => Bool
  | shutdownRequested => Bool
  | spawn _ _ => Unit
  | joinNext => Joined
  | tasksEmpty => Bool
  | abortAll => Unit
  | storeSendDone => Unit

def loadTestInterface : Interface where
  Call := Call
  Reply := Call.Reply

/-- A program of the load test. -/
abbrev LoadTest (Value : Type) := Program loadTestInterface String Value

abbrev ask (op : Call) : LoadTest op.Reply := @Program.perform loadTestInterface String op

end Axe.Verification

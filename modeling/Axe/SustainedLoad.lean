import Axe.TaskPool
import Axe.VerificationCalls

namespace Axe.Verification

open Hardened

/-!
# A sustained load test

The sender starts submissions at a steady rate, each with the key and the nonce
of its turn, and waits for all of them.  A submission can die at any moment,
because it panics or because the sender gives up after another one died.
-/

structure SustainedPlan where
  tps : Nat
  durationSecs : Nat
  keyCycle : Nat
  deriving DecidableEq

/-- The key that sends at a place of a tick. -/
def scheduledKeyIndex (tick offset : Nat) (plan : SustainedPlan) : Nat :=
  (tick % plan.keyCycle) * plan.tps + offset

/-- The next nonce of a key. -/
def takeNonce (nonces : Option (List U64)) (keyIndex : Nat) :
    LoadTest (Option U64 × Option (List U64)) :=
  match nonces with
  | none => .done (none, none)
  | some all =>
    match all[keyIndex]? with
    | some nonce => .done (some nonce, some (all.set keyIndex (nonce + 1)))
    | none => .fail "index out of bounds"

/-- Start the transactions of a tick. -/
def spawnTick (plan : SustainedPlan) (tick : Nat) :
    List Nat → Option (List U64) → LoadTest (Option (List U64))
  | [], nonces => .done nonces
  | offset :: rest, nonces => do
    let requested : Bool ← ask .shutdownRequested
    if requested then
      return nonces
    else do
      let keyIndex := scheduledKeyIndex tick offset plan
      let taken ← takeNonce nonces keyIndex
      let _ : Unit ← ask (.spawn keyIndex taken.1)
      spawnTick plan tick rest taken.2

/-- The ticks that are left, until the duration is over or a shutdown comes. -/
def sendTicks (plan : SustainedPlan) : Nat → Option (List U64) → LoadTest Unit
  | 0, _ => do
    -- The tick after the last one only ends the loop.
    let _ : Bool ← ask .tick
    return ()
  | left + 1, nonces => do
    let ready : Bool ← ask .tick
    if ready then do
      let nonces ←
        spawnTick plan (plan.durationSecs - (left + 1)) (List.range plan.tps) nonces
      sendTicks plan left nonces
    else
      return ()

/-- Wait for all submissions; after the first death the others are aborted. -/
def collectSustainedMetrics : Nat → List TxMetrics → Bool → LoadTest (List TxMetrics × Bool)
  | 0, _, _ => .fail "still waiting for receipts"
  | rounds + 1, metrics, failed => do
    let empty : Bool ← ask .tasksEmpty
    if empty then
      return (metrics, failed)
    else do
      let joined : Joined ← ask .joinNext
      match joined with
      | .finished metric => collectSustainedMetrics rounds (metrics ++ [metric]) failed
      | .tick => collectSustainedMetrics rounds metrics failed
      | .died =>
        if failed then
          collectSustainedMetrics rounds metrics failed
        else do
          let _ : Unit ← ask .abortAll
          collectSustainedMetrics rounds metrics true

/-- The send phase; the flag is raised whether or not a submission died. -/
def runSustainedLoop (plan : SustainedPlan)
    (nonces : Option (List U64)) : LoadTest (List TxMetrics) := do
  sendTicks plan plan.durationSecs nonces
  let rounds : Nat ← ask .rounds
  let collected ← collectSustainedMetrics rounds [] false
  let _ : Unit ← ask .storeSendDone
  Program.ensure (collected.2 = false) "sustained send task failed"
  return collected.1

end Axe.Verification

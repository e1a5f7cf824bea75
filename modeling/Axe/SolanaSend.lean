import Axe.HardenedPlatform
import Axe.Retry

namespace Axe.SolanaSend

open Hardened

/-!
# Sending a Solana transaction

A transaction is signed on a recent blockhash and lives as long as that hash.
The same signed transaction is sent again after transient errors.  If a node
reports that the blockhash has expired, the call signs on a fresh one.

Sending and confirming is one function of the client library; it is two requests
here, since much can happen between them.
-/

structure Instruction where
  programId : Bytes
  accounts : List Bytes
  data : Bytes
  deriving DecidableEq

structure Transaction where
  instructions : List Instruction
  payer : Bytes
  blockhash : Digest
  deriving DecidableEq

structure Simulation where
  error : Option String
  logs : Option (List String)
  deriving DecidableEq

/-- What the sender asks the cluster. -/
inductive Call where
  | getLatestBlockhash
  | sign (tx : Transaction)
  | sendTransaction (tx : Transaction)
  | confirmTransaction (tx : Transaction)
  | getSignatureStatus (signature : Bytes)
  | simulateTransaction (tx : Transaction)
  | sleep

/--
The reply to each request.  The first part of the reply to a submission says
whether the transaction was broadcast; the call sees only the second part.
-/
def Call.Reply : Call → Type
  | getLatestBlockhash => Except String Digest
  | sign _ => Unit
  | sendTransaction _ => Bool × Except String Unit
  | confirmTransaction _ => Except String Unit
  | getSignatureStatus _ => Except String (Option (Except String Unit))
  | simulateTransaction _ => Except String Simulation
  | sleep => Unit

def solanaInterface : Interface where
  Call := Call
  Reply := Call.Reply

/-- A program that talks to the cluster. -/
abbrev Solana (Value : Type) := Program solanaInterface String Value

abbrev ask (op : Call) : Solana op.Reply := @Program.perform solanaInterface String op

def isTransientSolana (error : String) : Bool :=
  if mentions (lowered error) "blockhash" then
    false
  else
    isTransientDefault error || mentions (lowered error) "rate limit"

/-- The blockhash of the transaction is too old. -/
def isBlockhashExpired (error : String) : Bool :=
  mentionsAny ["blockhash not found", "block height exceeded"] (lowered error)

/-- The transaction was processed before. -/
def isAlreadyProcessed (error : String) : Bool :=
  mentionsAny ["already been processed", "alreadyprocessed"] (lowered error)

def maxBlockhashRebuilds : Nat := 3

def retryBlocking {Value : Type} (isTransient : String → Bool)
    (request : Solana (Except String Value)) : Solana (Except String Value) :=
  retryAsync fallbackAttempts isTransient (ask .sleep) request

variable (signatureOf : Transaction → Bytes)

def awaitConfirmation (tx : Transaction)
    (sent : Except String Unit) : Solana (Except String Bytes) :=
  match sent with
  | .error error => .done (.error error)
  | .ok _ => do
    let confirmed : Except String Unit ← ask (.confirmTransaction tx)
    match confirmed with
    | .error error => .done (.error error)
    | .ok _ => .done (.ok (signatureOf tx))

/-- Send a transaction and wait for its confirmation. -/
def sendAndConfirmTransaction (tx : Transaction) : Solana (Except String Bytes) := do
  let reply : Bool × Except String Unit ← ask (.sendTransaction tx)
  awaitConfirmation signatureOf tx reply.2

/-- The result of a transaction that is on the chain already. -/
def landedStatus (signature : Bytes) : Solana (Except String (Except String Unit)) :=
  retryBlocking (fun _ => true) do
    let status : Except String (Option (Except String Unit)) ←
      ask (.getSignatureStatus signature)
    match status with
    | .ok (some result) => .done (.ok result)
    | .ok none => .done (.error "signature not yet visible")
    | .error error => .done (.error error)

def renderSimulation : Except String Simulation → String
  | .error error => "simulate_transaction follow-up failed: " ++ error
  | .ok simulation =>
    let header :=
      match simulation.error with
      | some error => "simulation error: " ++ error
      | none => "simulation succeeded but submit failed"
    match simulation.logs.getD [] with
    | [] => header
    | logs =>
      header ++ "\n  program logs:\n" ++
        String.intercalate "\n" (logs.map fun line => "    " ++ line)

def simulationDiagnostics (tx : Transaction) : Solana String := do
  let simulated : Except String Simulation ← ask (.simulateTransaction tx)
  .done (renderSimulation simulated)

def withDiagnostics (label error : String) (tx : Transaction) : Solana Bytes := do
  let diagnostics ← simulationDiagnostics tx
  .fail (label ++ ": " ++ error ++ "\n  -> " ++ diagnostics)

/-- How a failed transaction is reported, or found to be processed. -/
def resolve (label error : String) (tx : Transaction) : Solana Bytes :=
  if isAlreadyProcessed error then do
    let landed ← landedStatus (signatureOf tx)
    match landed with
    | .ok (.ok _) => .done (signatureOf tx)
    | .ok (.error txError) =>
      .fail (label ++ ": transaction landed but failed on chain: " ++ txError)
    | .error _ => withDiagnostics label error tx
  else
    withDiagnostics label error tx

/-- Rebuild the transaction while its blockhash expires. -/
def sendRounds (label : String) (instructions : List Instruction)
    (payer : Bytes) : Nat → Solana Bytes
  | 0 => .fail (label ++ ": rebuilds exhausted")
  | rebuilds + 1 => do
    let fetched : Except String Digest ←
      retryBlocking (fun _ => true) (ask .getLatestBlockhash)
    match fetched with
    | .error error => .fail error
    | .ok blockhash => do
      let tx : Transaction := ⟨instructions, payer, blockhash⟩
      ask (.sign tx)
      let sent ← retryBlocking isTransientSolana (sendAndConfirmTransaction signatureOf tx)
      match sent with
      | .ok signature => .done signature
      | .error error =>
        if isBlockhashExpired error && decide (0 < rebuilds) then
          sendRounds label instructions payer rebuilds
        else
          resolve signatureOf label error tx

/-- Sign, send and confirm some instructions. -/
def signSendConfirm (label : String) (instructions : List Instruction)
    (payer : Bytes) : Solana Bytes :=
  sendRounds signatureOf label instructions payer maxBlockhashRebuilds

end Axe.SolanaSend

import Axe.HardenedFunding

namespace Axe.Hardened

/-!
# Sessions and journal writes

A session holds the journal of one run.  Every change of the journal is made in
memory and written to the journal file before the run goes on; if the write
fails, the run stops.
-/

/-- The plan and the flags of a run. -/
structure Session where
  plan : Plan
  options : Options
  deriving DecidableEq

/-- The step that is running, and the EVM key it signs with. -/
structure Scope where
  step : StepName
  evmKey : String
  deriving DecidableEq

def unavailable : Stop := .failed "node request failed"

/-- Stop with the message of a failed check. -/
def check (result : Except String Unit) : Deploy Unit :=
  match result with
  | .ok () => .done ()
  | .error message => .fail (.failed message)

def attemptValue {Value : Type} (result : Except String Value) : Deploy Value :=
  match result with
  | .ok value => .done value
  | .error message => .fail (.failed message)

def currentJournal : Deploy Journal := ask .currentJournal

/-- Write the journal to its file. -/
def writeJournal (journal : Journal) : Deploy Unit := do
  let outcome : WriteOutcome ← ask (.commit journal)
  match outcome with
  | .ok => .done ()
  | _ => .fail (.failed "cannot write the deployment journal")

/-- Load the journal of this deployment, or start one. -/
def loadSession (fingerprint : Digest) : Deploy Unit := do
  let saved : Option Journal ←
    need .readJournal id (.failed "cannot read the deployment journal")
  match saved with
  | some journal => do
    Program.ensure (journal.version = 2)
      (.failed
        "unsupported deployment journal version; preserve the journal and use its matching binary to recover existing actions")
    Program.ensure (journal.fingerprint = fingerprint)
      (.failed
        "deployment inputs changed. Restore the original artifact bytecode, Cosmos storeCodeProposalCodeHash values and public settings before bootstrapping a snapshot for this journal; no fingerprint override is permitted")
    writeJournal journal
  | none => writeJournal (Journal.empty fingerprint)

def getAction (key : ActionKey) : Deploy (Option Transaction) := do
  let journal ← currentJournal
  return journal.get key

/-- Record the transaction of an action before it is sent. -/
def recordAction (key : ActionKey) (transaction : Transaction) : Deploy Unit := do
  let journal ← currentJournal
  Program.ensure (journal.get key = none)
    (.failed ("transaction already recorded for " ++ key.text))
  writeJournal (journal.record key transaction)

/-- Record the result of a transaction. -/
def confirmResult (hash : HashText) (result : Confirmation) : Deploy Unit := do
  let journal ← currentJournal
  writeJournal (journal.confirm hash result)

/-- Record a replacement; the replaced transaction is kept. -/
def replaceAction (key : ActionKey) (replacement : Transaction) : Deploy Unit := do
  let journal ← currentJournal
  match journal.get key with
  | some previous => writeJournal (journal.replace key previous replacement)
  | none => do
    -- The insertion happened before the missing entry was noticed.
    let _ : Unit ← ask (.hold (journal.record key replacement))
    .fail (.failed ("missing action " ++ key.text))

/-- Take a failed transaction off its action; it is kept as an attempt. -/
def retireAction (key : ActionKey) (gasLimit : Option U64) : Deploy Unit := do
  let journal ← currentJournal
  match journal.get key with
  | some previous => writeJournal (journal.retire key previous gasLimit)
  | none => .fail (.failed "missing failed action")

/-- Ask the operator. -/
def askOperator (prompt : String) : Deploy Bool := ask (.confirm prompt)

def inquire (question : Question) : Deploy question.Answer :=
  need (.inquire question) id unavailable

/-- A check of things outside, of which only the outcome matters. -/
def review (what : String) : Deploy Unit := need (.review what) id (.failed what)

def currentState : Deploy State := ask .currentState

def setState (state : State) : Deploy Unit := ask (.setState state)

/-- Write the state to its file. -/
def saveState : Deploy Unit := do
  let outcome : WriteOutcome ← ask .saveState
  match outcome with
  | .ok => .done ()
  | _ => .fail (.failed "cannot write the deployment state")

end Axe.Hardened

import Axe.RunIdentifiers
import Axe.Saturating
import Axe.TaskPool

namespace Axe.Mcp

open Hardened (U64)

/-!
# The registry of background runs

A run goes on after the request that started it.  When it is done it leaves a report, a file
named after it, and the registry keeps a handle of what is still in flight.  Questions about
runs look at the file and at the handle, at two different moments.

Sections under the lock of the handles are single requests, except for a start, which holds
the lock while it mints the identifier.  A report is any value that its text is read as.
-/

variable {Report : Type}

/-- What is known of a run. -/
inductive RunState (Report : Type) where
  | running (id : RunId)
  | finished (id : RunId) (report : Report)
  | unknown (text : String)
  deriving DecidableEq

inductive RunStatus where
  | running
  | finished
  deriving DecidableEq

structure RunListEntry where
  runId : RunId
  kind : Option RunKind
  state : RunStatus
  deriving DecidableEq

/-- Why a run is not started. -/
inductive StartRefused where
  | runInFlight (id : RunId)
  | slotHeldHere
  | heldByAnotherProcess (lock : String)
  | lockUnavailable (lock error : String)
  deriving DecidableEq

inductive Answer (Report : Type) where
  | state (state : RunState Report)
  | listed (entries : List RunListEntry)
  | started (outcome : Except StartRefused RunId)
  deriving DecidableEq

/-- The accesses to files, handles and the last minted millisecond. -/
inductive RunCall (Report : Type) where
  /-- Read a file of the reports directory as a report. -/
  | readReport (name : String)
  /-- Whether a run is still executing in this process. -/
  | isRunning (id : RunId)
  | openReports
  | nextEntries (opened : List String)
  /-- Forget the handles that are finished; the others are left. -/
  | retain
  /-- Take the lock of the handles, and the machine-wide slot if nothing is in flight. -/
  | claim
  | now
  /-- Raise the last minted millisecond; the value before is returned. -/
  | tryUpdate (now : U64)
  /-- Start the thread of a run, note its handle and give the lock back. -/
  | spawn (id : RunId)
  | answer (answer : Answer Report)

def RunCall.Reply : RunCall Report → Type
  | readReport _ => Option Report
  | isRunning _ => Bool
  | openReports => List String
  | nextEntries _ => List String
  | retain => List RunId
  | claim => Except StartRefused Unit
  | now => U64
  | tryUpdate _ => U64
  | spawn _ => Option (List Char)
  | answer _ => Unit

abbrev registryInterface (Report : Type) : Interface where
  Call := RunCall Report
  Reply := RunCall.Reply

abbrev Registry (Report Value : Type) := Program (registryInterface Report) Empty Value

abbrev ask (op : RunCall Report) : Registry Report op.Reply :=
  @Program.perform (registryInterface Report) Empty op

def laterMillis (first second : U64) : U64 :=
  if first ≤ second then second else first

def nextMillis (now last : U64) : U64 := laterMillis now (saturatingAdd last 1)

theorem lt_nextMillis {now last : U64} (room : last.toNat + 1 < 2 ^ 64) :
    last.toNat < (nextMillis now last).toNat := by
  have next : (saturatingAdd last 1).toNat = last.toNat + 1 := toNat_saturatingAdd room
  unfold nextMillis laterMillis
  split
  · omega
  · rename_i later
    have bound := BitVec.not_le.mp later
    have bound : (saturatingAdd last 1).toNat < now.toNat := bound
    omega

namespace RunId

/-- A fresh identifier. -/
def mint (kind : RunKind) : Registry Report RunId := do
  let now : U64 ← ask .now
  let previous : U64 ← ask (.tryUpdate now)
  return ofMillis kind (nextMillis now previous)

def listedBefore (first second : RunId) : Bool :=
  second.mintedMillis < first.mintedMillis ∨
    first.mintedMillis = second.mintedMillis ∧ first.text ≤ second.text

end RunId

namespace RunRegistry

/-- Start a run, unless it is refused. -/
def start (kind : RunKind) : Registry Report (Except StartRefused RunId) := do
  let claimed : Except StartRefused Unit ← ask .claim
  match claimed with
  | .error refused => return .error refused
  | .ok _ => do
    let id ← RunId.mint kind
    let _ : Option (List Char) ← ask (.spawn id)
    return .ok id

/-- The state of the run with an identifier. -/
def state (text : String) : Registry Report (RunState Report) :=
  match RunId.parse text with
  | none => return .unknown text
  | some id => do
    let report : Option Report ← ask (.readReport id.reportFileName)
    match report with
    | some report => return .finished id report
    | none => do
      let running : Bool ← ask (.isRunning id)
      return if running then .running id else .unknown text

def describe : List RunId → Registry Report (List RunListEntry)
  | [] => return []
  | id :: rest => do
    let running : Bool ← ask (.isRunning id)
    let entries ← describe rest
    return ⟨id, id.kind, if running then .running else .finished⟩ :: entries

/-- All runs with their status. -/
def list : Registry Report (List RunListEntry) := do
  let opened : List String ← ask .openReports
  let names : List String ← ask (.nextEntries opened)
  let ids := names.filterMap RunId.fromReportFileName
  let inFlight : List RunId ← ask .retain
  let known := ids ++ inFlight.filter fun id => id ∉ ids
  describe (known.mergeSort RunId.listedBefore)

end RunRegistry

/-- What the server is asked. -/
inductive Request where
  | start (kind : RunKind)
  | state (text : String)
  | list
  deriving DecidableEq

def Request.program : Request → Program (registryInterface Report) Empty Unit
  | start kind => (RunRegistry.start kind).bind fun outcome => ask (.answer (.started outcome))
  | state text => (RunRegistry.state text).bind fun found => ask (.answer (.state found))
  | list => RunRegistry.list.bind fun entries => ask (.answer (.listed entries))

/-!
## Threads, files and handles
-/

/-- A run: what it will write if it leaves a report, how much of that is in the file, and
whether its thread has ended. -/
structure Run where
  body : Option (List Char)
  written : Option Nat
  ended : Bool
  deriving DecidableEq

namespace Run

def content (run : Run) : Option (List Char) :=
  match run.body, run.written with
  | some body, some count => some (body.take count)
  | _, _ => none

def landed (run : Run) : Bool :=
  match run.body, run.written with
  | some body, some count => body.length ≤ count
  | _, _ => false

def readable (read : List Char → Option Report) (run : Run) : Bool :=
  run.body.any fun body =>
    (read body).isSome &&
      (List.range body.length).all fun count => (read (body.take count)).isNone

end Run

/-- A question under way: the file it has read, if it is about one run, whether that was a
report, and the runs that had been started before it and leave readable reports. -/
structure Query where
  task : Nat
  about : Option String
  found : Bool
  known : RunId → Bool

def Query.awaits (query : Query) (id : RunId) : Bool :=
  !query.found && (query.about = none || query.about = some id.reportFileName)

structure Answered (Report : Type) where
  known : RunId → Bool
  answer : Answer Report

/-- The runs, the requests and what was answered. -/
structure RegistryWorld (Report : Type) where
  lastMillis : U64
  runs : RunId → Option Run
  handles : List RunId
  lockedBy : Option Nat
  queries : List Query
  answers : List (Answered Report)

namespace RegistryWorld

def initial : RegistryWorld Report where
  lastMillis := 0
  runs := fun _ => none
  handles := []
  lockedBy := none
  queries := []
  answers := []

variable (world : RegistryWorld Report)

def live (id : RunId) : Bool := (world.runs id).any fun run => !run.ended

def landed (id : RunId) : Bool := (world.runs id).any Run.landed

def readable (read : List Char → Option Report) (id : RunId) : Bool :=
  (world.runs id).any (Run.readable read)

def file (id : RunId) : Option (List Char) := (world.runs id).bind Run.content

def setRun (id : RunId) (run : Run) : RegistryWorld Report :=
  { world with runs := fun other => if other = id then some run else world.runs other }

def queryOf (task : Nat) : Option Query := world.queries.find? fun query => query.task = task

def knownTo (task : Nat) (id : RunId) : Bool := (world.queryOf task).any fun query => query.known id

def asks (read : List Char → Option Report) (task : Nat) (about : Option String)
    (found : Bool) : RegistryWorld Report :=
  { world with queries := ⟨task, about, found, world.readable read⟩ :: world.queries }

/-- The directory shows exactly the files of runs of this process that exist. -/
def Shows (names : List String) : Prop :=
  ∀ id, (world.runs id).isSome = true → (id.reportFileName ∈ names ↔ (world.file id).isSome = true)

/-- The directory read on: nothing is lost, and nothing appears that does not exist. -/
def ShowsMore (opened names : List String) : Prop :=
  opened ⊆ names ∧ ∀ id, (world.runs id).isSome = true → id.reportFileName ∈ names →
      (world.file id).isSome = true

def Claims : Except StartRefused Unit → Prop
  | .ok _ => world.handles.filter world.live = []
  | .error (.runInFlight id) => id ∈ world.handles.filter world.live
  | .error _ => True

end RegistryWorld

/-- The threads of runs write their reports, step by step, and then end. -/
inductive RunMoves : RegistryWorld Report → RegistryWorld Report → Prop where
  | create
      {world : RegistryWorld Report}
      {id : RunId}
      {run : Run}
      (started : world.runs id = some run)
      (unwritten : run.written = none)
      (goes : run.ended = false) :
      RunMoves world (world.setRun id { run with written := some 0 })
  | write
      {world : RegistryWorld Report}
      {id : RunId}
      {run : Run}
      {body : List Char}
      {count : Nat}
      (more : Nat)
      (started : world.runs id = some run)
      (leaves : run.body = some body)
      (written : run.written = some count)
      (fits : count < more ∧ more ≤ body.length)
      (goes : run.ended = false) :
      RunMoves world (world.setRun id { run with written := some more })
  | finish
      {world : RegistryWorld Report}
      {id : RunId}
      {run : Run}
      (started : world.runs id = some run)
      (done : run.body = none ∨ run.landed = true) :
      RunMoves world (world.setRun id { run with ended := true })

/-- The file system returns what was written, and the handles are as they are; who holds
their lock excludes the others.  Files that belong to no run of this process hold anything.
The last value of the counter is never reached. -/
def RegistryAllows (read : List Char → Option Report) (task : Nat)
    (world : RegistryWorld Report) : (op : RunCall Report) → op.Reply → Prop
  | .readReport name, reply =>
    ∀ id : RunId, id.reportFileName = name → (world.runs id).isSome = true →
      reply = (world.file id).bind read
  | .isRunning id, reply =>
    world.lockedBy = none ∧ reply = decide (id ∈ world.handles ∧ world.live id = true)
  | .openReports, reply => world.Shows reply
  | .nextEntries opened, reply => world.ShowsMore opened reply
  | .retain, reply => world.lockedBy = none ∧ reply = world.handles.filter world.live
  | .claim, reply => world.lockedBy = none ∧ world.Claims reply
  | .now, _ => True
  | .tryUpdate _, reply =>
    world.lockedBy = some task ∧ reply = world.lastMillis ∧ world.lastMillis.toNat + 1 < 2 ^ 64
  | .spawn _, _ => world.lockedBy = some task
  | .answer _, _ => True

def registryReact (read : List Char → Option Report) (task : Nat) :
    (op : RunCall Report) → op.Reply → RegistryWorld Report → RegistryWorld Report
  | .readReport name, reply, world => world.asks read task (some name) reply.isSome
  | .openReports, _, world => world.asks read task none false
  | .retain, _, world => { world with handles := world.handles.filter world.live }
  | .claim, reply, world =>
    { world with
      handles := world.handles.filter world.live
      lockedBy := if reply.isOk then some task else none }
  | .tryUpdate now, _, world => { world with lastMillis := nextMillis now world.lastMillis }
  | .spawn id, body, world =>
    { world.setRun id ⟨body, none, false⟩ with
      handles := world.handles ++ [id]
      lockedBy := none }
  | .answer answer, _, world =>
    { world with
      queries := world.queries.filter fun query => query.task ≠ task
      answers := world.answers ++ [⟨world.knownTo task, answer⟩] }
  | _, _, world => world

/-- The requests as tasks that run interleaved. -/
def registryPool (read : List Char → Option Report) :
    TaskPool (registryInterface Report) Empty (RegistryWorld Report) Request where
  allowed := RegistryAllows read
  react := registryReact read
  evolve := RunMoves
  program := Request.program

end Axe.Mcp

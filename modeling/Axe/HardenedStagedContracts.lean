import Axe.HardenedRecoveryContracts
import Axe.HardenedStages

namespace Axe.Hardened

/-!
# Contracts of staged programs

A staged policy lets a run record transactions of the next pending step only,
and lets it save states of the same stage, or of the next one.  A program is
safe if it makes transitions of this policy and leaves the process at its stage.
-/

/-- Some launch had the go-ahead when the steps before the checkpoint were done. -/
def Activated (launches : List Launched) : Prop :=
  ∃ launch ∈ launches, launch.options.activate = true ∧ ∃ state, launch.saved = some state ∧
      ∀ step ∈ state.steps,
        step.name.place < StepName.waitForVerifierSet.place → step.status = .completed

def Cleared (count : Nat) (launches : List Launched) : Prop :=
  StepName.waitForVerifierSet.place ≤ count → Activated launches

/-- The creation code of a gateway proxy that starts with an approved set. -/
def ProxyPayload (lib : Platform) (plan : Plan) (sender : Address) (initial : InitialSigners)
    (input : Bytes) : Prop :=
  ∃ bytecode implementation, input = gatewayProxyCode lib bytecode implementation sender
        (encodeGatewaySetupParams lib plan.gatewayOperator initial.signers
          initial.threshold initial.nonce)

def PinsImplementation (lib : Platform) (saved : State) (transaction : Transaction) : Prop :=
  ∃ tx, transaction = .evm tx ∧ tx.nonce.toNat + 1 < 2 ^ 64 ∧
    saved.predictedGatewayAddress = some (lib.createAddress tx.sender (tx.nonce + 1))

def PinsProxy (lib : Platform) (plan : Plan) (journal : Journal)
    (transaction : Transaction) : Prop :=
  ∃ tx implementation initial envelope, transaction = .evm tx ∧
      journal.get gatewayImplementationKey = some (.evm implementation) ∧
      tx.sender = implementation.sender ∧ tx.nonce = implementation.nonce + 1 ∧
      journal.initialSigners = some initial ∧
      lib.decodeEnvelope tx.raw = some envelope ∧ envelope.kind = .create ∧
      ProxyPayload lib plan tx.sender initial envelope.input

structure RecordsNext (lib : Platform) (plan : Plan) (here : Station) (saved : State)
    (count : Nat) (key : ActionKey) (transaction : Transaction) : Prop where
  isSaved : here.saved = some saved
  staged : Staged plan count saved.steps
  next : key.step.place = count
  cleared : Cleared count here.launches
  implementation : key = gatewayImplementationKey → PinsImplementation lib saved transaction
  proxy : key = gatewayProxyKey → PinsProxy lib plan here.memory transaction

structure SavesNext (plan : Plan) (here : Station) (saved : State) (count : Nat) : Prop where
  isSaved : here.saved = some saved
  staged : Staged plan count saved.steps
  hasPlan : here.context.hardenedPlan = some plan
  predicted : StepName.predictGatewayAddress.place < count →
      here.context.predictedGatewayAddress = saved.predictedGatewayAddress
  next : Staged plan count here.context.steps ∨
      Staged plan (count + 1) here.context.steps ∧ Cleared count here.launches

def stagedPolicy (lib : Platform) (plan : Plan) : Policy where
  records := fun here key transaction =>
    ∃ saved count, RecordsNext lib plan here saved count key transaction
  updates := fun _ _ => True
  saves := fun here => ∃ saved count, SavesNext plan here saved count

/-- A state of a stage, with the predicted address of the gateway. -/
structure Fits (plan : Plan) (count : Nat) (pinned : Option Address) (state : State) : Prop where
  hasPlan : state.hardenedPlan = some plan
  staged : Staged plan count state.steps
  predicted : StepName.predictGatewayAddress.place < count → state.predictedGatewayAddress = pinned

variable {plan : Plan} {count : Nat} {pinned : Option Address}

theorem Fits.stripped {state : State} (fits : Fits plan count pinned state) :
    Fits plan count pinned state.stripped :=
  ⟨fits.hasPlan, fits.staged, fits.predicted⟩

structure Station.At (plan : Plan) (count : Nat) (pinned : Option Address)
    (here : Station) : Prop where
  context : Fits plan count pinned here.context
  saved : ∃ saved, here.saved = some saved ∧ Fits plan count pinned saved

theorem Station.At.saves {here : Station} (atStage : here.At plan count pinned) :
    ∃ saved count, SavesNext plan here saved count := by
  obtain ⟨saved, isSaved, fits⟩ := atStage.saved
  refine ⟨saved, count, isSaved, fits.staged, atStage.context.hasPlan, ?_,
    .inl atStage.context.staged⟩
  intro late
  rw [atStage.context.predicted late, fits.predicted late]

theorem Station.At.stateWritten {here : Station} (atStage : here.At plan count pinned)
    (outcome : WriteOutcome) :
    (here.stateWritten outcome).At plan count pinned := by
  refine ⟨atStage.context, ?_⟩
  cases outcome with
  | failedBefore => exact atStage.saved
  | ok => exact ⟨_, rfl, atStage.context.stripped⟩
  | failedAfter => exact ⟨_, rfl, atStage.context.stripped⟩

abbrev Files := Journal → Option Journal → Prop

def Opened (lib : Platform) (honest : Prop) : Files :=
  fun memory disk =>
    disk.map Journal.core = some memory.core ∧
      (honest → memory.Sound lib ∧ ∀ file, disk = some file → file.Sound lib)

def Unopened (lib : Platform) (honest : Prop) : Files :=
  fun memory disk =>
    memory = Journal.empty [] ∧
      (honest → memory.Sound lib ∧ ∀ file, disk = some file → file.Sound lib)

structure Ready (files : Files) (plan : Plan) (count : Nat) (pinned : Option Address)
    (launches : List Launched) (here : Station) : Prop where
  atStage : here.At plan count pinned
  files : files here.memory here.disk
  launches : here.launches = launches

/-- A program that leaves the process at its stage. -/
def Safe (lib : Platform) (honest : Prop) (files : Files) (plan : Plan) (count : Nat)
    (pinned : Option Address) (launches : List Launched) {Value : Type}
    (program : Deploy Value) : Prop :=
  ∀ here world, Ready files plan count pinned launches here →
    Keeps lib honest plan (stagedPolicy lib plan) program
      (fun _ after _ => Ready files plan count pinned launches after)
      (fun _ after _ => after.At plan count pinned)
      here world

section Rules

variable {lib : Platform} {honest : Prop} {files : Files} {plan : Plan}
variable {count : Nat} {pinned : Option Address} {launches : List Launched}
variable {Value Result Item : Type}

namespace Safe

theorem done (value : Value) : Safe lib honest files plan count pinned launches (.done value) :=
  fun _ _ ready => ready

theorem fail (stop : Stop) : Safe lib honest files plan count pinned launches
      (.fail stop : Deploy Value) :=
  fun _ _ ready => ready.atStage

theorem bind {program : Deploy Value} {later : Value → Deploy Result}
    (first : Safe lib honest files plan count pinned launches program)
    (rest : ∀ value, Safe lib honest files plan count pinned launches (later value)) :
    Safe lib honest files plan count pinned launches (program.bind later) :=
  fun here world ready =>
    (first here world ready).seq
      fun value after moved still => rest value after moved still

variable {error : Stop}

theorem ensure {condition : Prop} [Decidable condition] {later : Unit → Deploy Value}
    (rest : condition → Safe lib honest files plan count pinned launches (later ())) :
    Safe lib honest files plan count pinned launches
      ((Program.ensure condition error).bind later) :=
  fun here world ready =>
    Meets.ensure_bind (fun holds => rest holds here world ready) (fun _ => ready.atStage)

theorem lastEnsure (condition : Prop) [Decidable condition] (error : Stop) :
    Safe lib honest files plan count pinned launches
      (Program.ensure condition error) :=
  fun _ _ ready => Meets.ensure (fun _ => ready) (fun _ => ready.atStage)

variable {later : Result → Deploy Value}

theorem orFail {option : Option Result}
    (rest : ∀ value, option = some value →
        Safe lib honest files plan count pinned launches (later value)) :
    Safe lib honest files plan count pinned launches
      ((Program.orFail option error).bind later) :=
  fun here world ready =>
    Meets.orFail_bind (fun value found => rest value found here world ready)
      (fun _ => ready.atStage)

theorem lastOrFail (option : Option Value) (error : Stop) :
    Safe lib honest files plan count pinned launches
      (Program.orFail option error) :=
  fun _ _ ready => Meets.orFail (fun _ _ => ready) (fun _ => ready.atStage)

theorem check {result : Except String Unit} {later : Unit → Deploy Value}
    (rest : result = .ok () → Safe lib honest files plan count pinned launches (later ())) :
    Safe lib honest files plan count pinned launches
      ((Hardened.check result).bind later) :=
  fun here world ready =>
    keeps_check (fun passed => rest passed here world ready) (fun _ => ready.atStage)

theorem lastCheck (result : Except String Unit) : Safe lib honest files plan count pinned launches
      (Hardened.check result) := by
  intro here world ready
  cases result with
  | ok _ => exact ready
  | error message => exact ready.atStage

theorem attemptValue {result : Except String Result}
    (rest : ∀ value, result = .ok value →
        Safe lib honest files plan count pinned launches (later value)) :
    Safe lib honest files plan count pinned launches
      ((Hardened.attemptValue result).bind later) :=
  fun here world ready =>
    keeps_attemptValue (fun value found => rest value found here world ready)
      (fun _ => ready.atStage)

theorem lastAttemptValue (result : Except String Value) :
    Safe lib honest files plan count pinned launches
      (Hardened.attemptValue result) := by
  intro here world ready
  cases result with
  | ok _ => exact ready
  | error message => exact ready.atStage

theorem ask {op : Call} (reads : (deployMachine lib honest).Reads op) :
    Safe lib honest files plan count pinned launches (Hardened.ask op) :=
  fun _ _ ready => Meets.read reads (fun _ _ => .stutter) fun _ _ _ _ => ready

theorem need {op : Call} {unpack : op.Reply → Option Value}
    (reads : (deployMachine lib honest).Reads op) :
    Safe lib honest files plan count pinned launches
      (Hardened.need op unpack error) :=
  .bind (.ask reads) fun reply => .lastOrFail (unpack reply) error

theorem inquire (question : Question) : Safe lib honest files plan count pinned launches
      (Hardened.inquire question) :=
  .need fun _ _ _ => rfl

theorem review (what : String) :
    Safe lib honest files plan count pinned launches (Hardened.review what) :=
  .need fun _ _ _ => rfl

theorem askOperator (prompt : String) : Safe lib honest files plan count pinned launches
      (Hardened.askOperator prompt) :=
  .ask fun _ _ _ => rfl

theorem currentJournal : Safe lib honest files plan count pinned launches Hardened.currentJournal :=
  .ask fun _ _ _ => rfl

theorem getAction (key : ActionKey) :
    Safe lib honest files plan count pinned launches (Hardened.getAction key) :=
  .bind .currentJournal fun _ => .done _

theorem currentState {later : State → Deploy Value}
    (rest : ∀ state, Fits plan count pinned state →
        Safe lib honest files plan count pinned launches (later state)) :
    Safe lib honest files plan count pinned launches
      (Hardened.currentState.bind later) :=
  fun here _ ready =>
    keeps_currentState fun moved _ => rest here.context ready.atStage.context here moved ready

theorem setState {state : State} (fits : Fits plan count pinned state) :
    Safe lib honest files plan count pinned launches
      (Hardened.setState state) := by
  intro here world ready moved _ reply _
  exact ⟨.update state trivial, ⟨⟨fits, ready.atStage.saved⟩, ready.files, ready.launches⟩⟩

theorem saveState : Safe lib honest files plan count pinned launches Hardened.saveState := by
  intro here world ready
  refine Meets.perform_bind fun moved _ outcome _ => ?_
  refine ⟨.save outcome ready.atStage.saves, ?_⟩
  have written := ready.atStage.stateWritten outcome
  cases outcome with
  | ok => exact ⟨written, ready.files, ready.launches⟩
  | failedBefore => exact written
  | failedAfter => exact written

theorem each {body : Item → Deploy Unit} {items : List Item}
    (step : ∀ item ∈ items, Safe lib honest files plan count pinned launches (body item)) :
    Safe lib honest files plan count pinned launches (Program.each body items) := by
  induction items with
  | nil => exact .done ()
  | cons item rest ih =>
    refine .bind (step item List.mem_cons_self) fun _ => ?_
    exact ih fun other member => step other (List.mem_cons_of_mem _ member)

end Safe

/-- The same records, but no change of the state. -/
def Policy.quiet (policy : Policy) : Policy where
  records := policy.records
  updates := fun _ _ => False
  saves := fun _ => False

variable {policy : Policy} {here : Station} {world world' : Chains lib}

theorem Transition.unquiet {here' : Station}
    (transition : Transition lib honest plan policy.quiet here world here' world') :
    Transition lib honest plan policy here world here' world' := by
  cases transition with
  | stutter => exact .stutter
  | update _ permitted => exact permitted.elim
  | save _ permitted => exact permitted.elim
  | load journal outcome closed opened => exact .load journal outcome closed opened
  | commit journal outcome synced move => exact .commit journal outcome synced move
  | handEvm key tx synced recorded hash => exact .handEvm key tx synced recorded hash
  | handCosmos key tx synced recorded hash => exact .handCosmos key tx synced recorded hash
  | simulate raw unsigned => exact .simulate raw unsigned

structure Station.SameState (before after : Station) : Prop where
  context : after.context = before.context
  saved : after.saved = before.saved
  launches : after.launches = before.launches

theorem Station.SameState.atStage {before after : Station} (same : before.SameState after)
    (atStage : before.At plan count pinned) :
    after.At plan count pinned := by
  refine ⟨?_, ?_⟩
  · rw [same.context]
    exact atStage.context
  · rw [same.saved]
    exact atStage.saved

theorem Transition.sameState {here' : Station}
    (transition : Transition lib honest plan policy.quiet here world here' world') :
    here.SameState here' := by
  cases transition with
  | update _ permitted => exact permitted.elim
  | save _ permitted => exact permitted.elim
  | _ => exact ⟨rfl, rfl, rfl⟩

variable {program : Deploy Value} {onDone : Value → Station → Chains lib → Prop}
variable {onFail : Stop → Station → Chains lib → Prop}

theorem keeps_quietly
    (keeps : Keeps lib honest plan policy.quiet program onDone onFail here world) :
    Keeps lib honest plan policy program
      (fun value after moved => onDone value after moved ∧ here.SameState after)
      (fun stop after moved => onFail stop after moved ∧ here.SameState after)
      here world := by
  refine Meets.promising (Meets.keeping keeps (fun _ _ _ _ same => same) ?_
    ⟨rfl, rfl, rfl⟩) Transition.unquiet
  intro now _ next _ transition same
  have step := transition.sameState
  exact ⟨step.context.trans same.context, step.saved.trans same.saved,
    step.launches.trans same.launches⟩

abbrev Ready.Open (lib : Platform) (honest : Prop) :
    Plan → Nat → Option Address → List Launched → Station → Prop :=
  Ready (Opened lib honest)

theorem Ready.synced (ready : Ready.Open lib honest plan count pinned launches here) :
    here.Synced :=
  ready.files.1

theorem Ready.sound (ready : Ready.Open lib honest plan count pinned launches here) :
    honest → here.Sound lib :=
  fun trusted => ⟨(ready.files.2 trusted).1, (ready.files.2 trusted).2⟩

theorem keeps_ready
    (keeps : Keeps lib honest plan (stagedPolicy lib plan).quiet program onDone onFail here world)
    (synced : ∀ value after moved, onDone value after moved → after.Synced)
    (ready : Ready.Open lib honest plan count pinned launches here) :
    Keeps lib honest plan (stagedPolicy lib plan) program
      (fun value after moved =>
        Ready.Open lib honest plan count pinned launches after ∧
          onDone value after moved ∧ here.SameState after)
      (fun _ after _ => after.At plan count pinned) here world := by
  refine (keeps_quietly (keeps_sound keeps ready.sound)).weaken ?_ ?_
  · rintro value after moved ⟨⟨ends, sound⟩, same⟩
    refine ⟨⟨same.atStage ready.atStage, ⟨synced value after moved ends, ?_⟩,
      same.launches.trans ready.launches⟩, ends, same⟩
    exact fun trusted => ⟨(sound trusted).memory, (sound trusted).disk⟩
  · rintro stop after moved ⟨_, same⟩
    exact same.atStage ready.atStage

theorem Safe.quietly
    (keeps : ∀ here world, Ready.Open lib honest plan count pinned launches here →
        Keeps lib honest plan (stagedPolicy lib plan).quiet program
          (fun _ after _ => after.Synced) (fun _ _ _ => True) here world) :
    Safe lib honest (Opened lib honest) plan count pinned launches
      program :=
  fun here world ready =>
    (keeps_ready (keeps here world ready) (fun _ _ _ ends => ends) ready).weaken
      (fun _ _ _ ends => ends.1) (fun _ _ _ ends => ends)

structure Sends (scope : Scope) (count : Nat) (launches : List Launched) : Prop where
  next : scope.step.place = count
  cleared : Cleared count launches
  unpinned : scope.step ≠ .axelarGateway

theorem Ready.records {files : Files} {scope : Scope} {key : ActionKey} {transaction : Transaction}
    (ready : Ready files plan count pinned launches here) (sends : Sends scope count launches)
    (isStep : key.step = scope.step) :
    (stagedPolicy lib plan).quiet.records here key transaction := by
  obtain ⟨saved, isSaved, fits⟩ := ready.atStage.saved
  have unpinned : key.step ≠ .axelarGateway := isStep ▸ sends.unpinned
  refine ⟨saved, count, isSaved, fits.staged, isStep ▸ sends.next,
    ready.launches ▸ sends.cleared, ?_, ?_⟩
  · intro isKey
    rw [isKey] at unpinned
    exact (unpinned rfl).elim
  · intro isKey
    rw [isKey] at unpinned
    exact (unpinned rfl).elim

theorem keeps_amendment {journal : Journal}
    (ready : Ready.Open lib honest plan count pinned launches here)
    (same : SameRecords here.memory journal) :
    Keeps lib honest plan (stagedPolicy lib plan) (writeJournal journal)
      (fun _ after _ => Ready.Open lib honest plan count pinned launches after)
      (fun _ after _ => after.At plan count pinned) here world := by
  have written : Keeps lib honest plan (stagedPolicy lib plan).quiet
        (writeJournal journal)
        (fun _ after _ => after.Synced) (fun _ _ _ => True) here world :=
    keeps_writeJournal
      (fun _ outcome _ => .commit journal outcome ready.synced (.other journal same))
      (fun _ _ => Station.synced_written here journal) (fun _ _ _ _ => trivial)
  exact (keeps_ready written (fun _ _ _ ends => ends) ready).weaken
    (fun _ _ _ ends => ends.1) (fun _ _ _ ends => ends)

namespace Safe

theorem readJournal {files : Files} {later : Journal → Deploy Value}
    (rest : ∀ here world, Ready files plan count pinned launches here →
        Keeps lib honest plan (stagedPolicy lib plan) (later here.memory)
          (fun _ after _ => Ready files plan count pinned launches after)
          (fun _ after _ => after.At plan count pinned) here world) :
    Safe lib honest files plan count pinned launches
      (Hardened.currentJournal.bind later) :=
  fun here _ ready => keeps_currentJournal fun moved _ => rest here moved ready

theorem readAction {files : Files} {key : ActionKey} {later : Option Transaction → Deploy Value}
    (rest : ∀ here world, Ready files plan count pinned launches here →
        Keeps lib honest plan (stagedPolicy lib plan)
          (later (here.memory.get key))
          (fun _ after _ => Ready files plan count pinned launches after)
          (fun _ after _ => after.At plan count pinned) here world) :
    Safe lib honest files plan count pinned launches
      ((Hardened.getAction key).bind later) :=
  fun here _ ready => keeps_getAction fun moved _ => rest here moved ready

theorem amend {change : Journal → Journal}
    (same : ∀ journal, SameRecords journal (change journal)) :
    Safe lib honest (Opened lib honest) plan count pinned launches
      (Hardened.currentJournal.bind fun journal => writeJournal (change journal)) :=
  .readJournal fun here _ ready => keeps_amendment ready (same here.memory)

variable {session : Session} {scope : Scope}

theorem sendEvm (sends : Sends scope count launches) (request : TransactionRequest)
    (label : EvmLabel) :
    Safe lib honest (Opened lib honest) session.plan count pinned launches
      (Hardened.sendEvm lib session scope request label) :=
  .quietly fun _ _ ready =>
    (keeps_sendEvm ready.synced (fun trusted => (ready.sound trusted).memory)
      (fun _ _ _ _ _ _ => ready.records sends rfl)).weaken
      (fun _ _ _ ends => ends.1.synced) (fun _ _ _ _ => trivial)

theorem sendCosmos (sends : Sends scope count launches) (wallet : Wallet lib)
    (lcd chainId feeDenom : String) (gasPrice : GasPrice) (messages : List AnyMessage) :
    Safe lib honest (Opened lib honest) session.plan count pinned launches
      (Hardened.sendCosmos lib session scope wallet lcd chainId feeDenom gasPrice messages) :=
  .quietly fun _ _ ready =>
    (keeps_sendCosmos ready.synced (fun _ => ready.records sends rfl)).weaken
      (fun _ _ _ ends => ends.synced) (fun _ _ _ _ => trivial)

theorem resumeCosmos {here : Station} {world : Chains lib} {lcd : String}
    {saved : CosmosTransaction} {key : ActionKey}
    (ready : Ready.Open lib honest session.plan count pinned launches here)
    (current : here.memory.get key = some (.cosmos saved)) :
    Keeps lib honest session.plan (stagedPolicy lib session.plan)
      (Hardened.resumeCosmos lib session lcd saved key)
      (fun _ after _ =>
        Ready.Open lib honest session.plan count pinned launches after)
      (fun _ after _ => after.At session.plan count pinned) here world :=
  (keeps_ready (keeps_resumeCosmos ready.synced current)
    (fun _ _ _ same => same.synced ready.synced) ready).weaken
    (fun _ _ _ ends => ends.1) (fun _ _ _ ends => ends)

end Safe

end Rules

end Axe.Hardened

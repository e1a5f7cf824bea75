import Axe.HardenedRecoveryContracts

namespace Axe.Hardened

/-!
# Hardened runs

A launch of the process opens the journal file and then sends, resumes, replaces
and retires transactions, in any order and with any options.  The process can
stop after any call, and is then launched again.  The plan is the same for all
launches.
-/

/-- One thing that a launch does with its journal. -/
inductive Operation (lib : Platform) where
  | sendEvm (scope : Scope) (request : TransactionRequest) (label : EvmLabel)
  | sendCosmos
      (scope : Scope)
      (wallet : Wallet lib)
      (lcd chainId feeDenom : String)
      (gasPrice : GasPrice)
      (messages : List AnyMessage)
  | recover (scope : Scope) (key : ActionKey) (lcd : String)

/-- The inputs and the operations of a launch. -/
structure Launch (lib : Platform) where
  fingerprint : Digest
  options : Options
  context : State
  operations : List (Operation lib)

def Station.initial (saved : Option State) (context : State) : Station where
  memory := Journal.empty []
  disk := none
  context := context
  saved := saved
  launches := []

/-- A new process has its files and nothing in memory. -/
def Station.boot (here : Station) (options : Options) (context : State) : Station :=
  { here with
    memory := Journal.empty []
    context := context
    launches := here.launches ++ [⟨options, here.saved⟩] }

variable (lib : Platform)

/-- The program of an operation. -/
def operate (session : Session) : Operation lib → Deploy Unit
  | .sendEvm scope request label => do
    let _ ← sendEvm lib session scope request label
    .done ()
  | .sendCosmos scope wallet lcd chainId feeDenom gasPrice messages => do
    let _ ←
      sendCosmos lib session scope wallet lcd chainId feeDenom gasPrice messages
    .done ()
  | .recover scope key lcd => do
    let saved ← getAction key
    match saved with
    | none => .done ()
    | some saved => recoverAction lib session scope key saved lcd

/-- Load the journal and carry out the operations. -/
def launchProgram (plan : Plan) (launch : Launch lib) : Deploy Unit := do
  loadSession launch.fingerprint
  Program.each (operate lib ⟨plan, launch.options⟩) launch.operations

/-- The operations as a service that can crash and start again. -/
def deployService (honest : Prop) (plan : Plan) :
    Service deployInterface Stop Station (Chains lib) (Launch lib) where
  machine := deployMachine lib honest
  boot := fun launch here => here.boot launch.options launch.context
  program := launchProgram lib plan

def anyRecord : Policy where
  records := fun _ _ _ => True
  updates := fun _ _ => False
  saves := fun _ => False

variable {lib}

abbrev DeployConfig (lib : Platform) := Config deployInterface Stop Station (Chains lib)

/-- The process was never launched, and no node was handed anything. -/
structure DeployConfig.Initial (config : DeployConfig lib) : Prop where
  idle : config.activity = .idle
  here : ∃ saved context, config.here = Station.initial saved context
  handed : config.world.handed = []

section Contracts

variable {honest : Prop} {plan : Plan} {here : Station} {world : Chains lib}

theorem empty_sound (fingerprint : Digest) : (Journal.empty fingerprint).Sound lib := by
  intro hash receipt confirmed
  simp [Journal.confirmation, Journal.empty] at confirmed

theorem Station.Sound.boot (sound : here.Sound lib) (options : Options) (context : State) :
    (here.boot options context).Sound lib :=
  ⟨empty_sound [], sound.disk⟩

theorem keeps_operate (session : Session) (op : Operation lib) (synced : here.Synced)
    (sound : honest → here.Sound lib) :
    Keeps lib honest session.plan anyRecord (operate lib session op)
      (fun _ after _ => after.Synced) (fun _ _ _ => True) here world := by
  have memorySound : honest → here.memory.Sound lib := fun trusted => (sound trusted).memory
  cases op with
  | sendEvm scope request label =>
    refine (keeps_sendEvm synced memorySound
      (fun _ _ _ _ _ _ => trivial)).andThen (fun _ _ _ _ => trivial) ?_
    intro _ after _ sent
    exact sent.1.synced
  | sendCosmos scope wallet lcd chainId feeDenom gasPrice messages =>
    refine (keeps_sendCosmos synced (fun _ => trivial)).andThen (fun _ _ _ _ => trivial) ?_
    intro _ after _ touched
    exact touched.synced
  | recover scope key lcd =>
    refine keeps_getAction fun _ _ => ?_
    split
    · exact synced
    · rename_i saved current
      exact (keeps_recoverAction synced memorySound current).weaken
        (fun _ _ _ touched => touched.synced) (fun _ _ _ ends => ends)

theorem keeps_launchProgram (launch : Launch lib) (closed : here.memory = Journal.empty [])
    (sound : honest → here.Sound lib) :
    Keeps lib honest plan anyRecord (launchProgram lib plan launch)
      (fun _ _ _ => True) (fun _ _ _ => True) here world := by
  refine (keeps_sound (keeps_loadSession launch.fingerprint closed) sound).andThen
    (fun _ _ _ _ => trivial) ?_
  intro _ opened started loaded
  have looped : Keeps lib honest plan anyRecord
        (Program.each (operate lib ⟨plan, launch.options⟩) launch.operations)
        (fun _ after _ => after.Synced ∧ (honest → after.Sound lib))
        (fun _ _ _ => True) opened started :=
    Meets.forEach (fun op _ _ kept =>
        keeps_sound (keeps_operate ⟨plan, launch.options⟩ op kept.1 kept.2) kept.2)
      ⟨loaded.1.1, loaded.2⟩
  exact looped.weaken (fun _ _ _ _ => trivial) (fun _ _ _ ends => ends)

end Contracts

end Axe.Hardened

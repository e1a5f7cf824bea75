import Axe.HardenedTransitions

namespace Axe.Hardened

/-!
# Contracts of the journal operations

`Keeps` says that every call of a program is a transition and that the program
ends as required.  The rules here are those of the journal operations; all
later contracts are built from them.
-/

/-- A program makes transitions only, and ends as required. -/
abbrev Keeps (lib : Platform) (honest : Prop) (plan : Plan) (policy : Policy) {Value : Type}
    (program : Deploy Value) (onDone : Value → Station → Chains lib → Prop)
    (onFail : Stop → Station → Chains lib → Prop) (here : Station) (world : Chains lib) : Prop :=
  Meets (deployMachine lib honest) (Transition lib honest plan policy)
    program onDone onFail here world

abbrev Evolves {lib : Platform} : Chains lib → Chains lib → Prop :=
  Relation.ReflTransGen Chains.Evolve

variable {lib : Platform} {world later : Chains lib}

theorem Evolves.results {hash : Digest} {code : Nat} (evolved : Evolves world later)
    (results : world.cosmos.Results hash code) :
    later.cosmos.Results hash code := by
  induction evolved with
  | refl => exact results
  | tail _ step ih => exact Chains.results_evolve ih step

theorem Evolves.failedFinally {sender : Address} {nonce : U64} (evolved : Evolves world later)
    (failed : world.evm.FailedFinally sender nonce) :
    later.evm.FailedFinally sender nonce := by
  induction evolved with
  | refl => exact failed
  | tail _ step ih => exact Chains.failedFinally_evolve ih step

theorem Evolves.finalizes {envelope : Envelope} {status : Bool} (evolved : Evolves world later)
    (finalizes : world.evm.Finalizes envelope status) :
    later.evm.Finalizes envelope status := by
  induction evolved with
  | refl => exact finalizes
  | tail _ step ih =>
    obtain ⟨_, ⟨⟨_, moved⟩, _⟩ | ⟨_, unchanged⟩⟩ := step.cases
    · exact ih.move moved
    · exact unchanged ▸ ih

namespace Station

/-- The journal changes in its results at most, and nothing else does. -/
structure SameCore (before after : Station) : Prop where
  memory : after.memory.core = before.memory.core
  disk : after.disk.map Journal.core = before.disk.map Journal.core
  context : after.context = before.context
  saved : after.saved = before.saved
  launches : after.launches = before.launches

theorem SameCore.refl (here : Station) : SameCore here here := ⟨rfl, rfl, rfl, rfl, rfl⟩

theorem SameCore.trans {first second third : Station} (one : SameCore first second)
    (two : SameCore second third) :
    SameCore first third :=
  ⟨two.memory.trans one.memory, two.disk.trans one.disk,
    two.context.trans one.context, two.saved.trans one.saved,
    two.launches.trans one.launches⟩

variable {before after : Station}

theorem SameCore.synced (same : SameCore before after) (synced : before.Synced) :
    after.Synced := by
  unfold Synced at synced ⊢
  rw [same.disk, same.memory, synced]

theorem SameCore.get (same : SameCore before after) (key : ActionKey) :
    after.memory.get key = before.memory.get key :=
  congrArg (fun journal => journal.get key) same.memory

theorem SameCore.past (same : SameCore before after) (key : ActionKey) :
    after.memory.past key = before.memory.past key :=
  congrArg (fun journal => journal.past key) same.memory

theorem SameCore.initialSigners (same : SameCore before after) :
    after.memory.initialSigners = before.memory.initialSigners :=
  congrArg (fun journal => journal.initialSigners) same.memory

theorem sameCore_confirm {here : Station} (synced : here.Synced) (hash : HashText)
    (result : Confirmation) (outcome : WriteOutcome) :
    SameCore here (here.written (here.memory.confirm hash result) outcome) := by
  refine ⟨rfl, ?_, rfl, rfl, rfl⟩
  unfold Synced at synced
  cases outcome <;> simp [written, WriteOutcome.reached, synced] <;> rfl

/-- The journal changes in one action, and in results, at most. -/
structure Touches (key : ActionKey) (before after : Station) : Prop where
  synced : after.Synced
  others : ∀ other, other ≠ key → after.memory.get other = before.memory.get other ∧
        after.memory.past other = before.memory.past other
  initialSigners : after.memory.initialSigners = before.memory.initialSigners
  context : after.context = before.context
  saved : after.saved = before.saved
  launches : after.launches = before.launches

theorem SameCore.touches (same : SameCore before after) (synced : before.Synced) (key : ActionKey) :
    Touches key before after :=
  ⟨same.synced synced, fun other _ => ⟨same.get other, same.past other⟩,
    same.initialSigners, same.context, same.saved, same.launches⟩

theorem Touches.trans {key : ActionKey} {first second third : Station}
    (one : Touches key first second) (two : Touches key second third) :
    Touches key first third :=
  ⟨two.synced, fun other different =>
      ⟨(two.others other different).1.trans (one.others other different).1,
        (two.others other different).2.trans (one.others other different).2⟩,
    two.initialSigners.trans one.initialSigners,
    two.context.trans one.context, two.saved.trans one.saved,
    two.launches.trans one.launches⟩

theorem synced_written (here : Station) (journal : Journal) : (here.written journal .ok).Synced :=
  rfl

theorem touches_record (here : Station) (key : ActionKey) (transaction : Transaction) :
    Touches key here (here.written (here.memory.record key transaction) .ok) := by
  refine ⟨synced_written here _, ?_, rfl, rfl, rfl, rfl⟩
  intro other different
  exact ⟨here.memory.get_record_ne key other transaction different, rfl⟩

theorem touches_replace (here : Station) (key : ActionKey) (previous replacement : Transaction) :
    Touches key here
      (here.written (here.memory.replace key previous replacement) .ok) := by
  refine ⟨synced_written here _, ?_, rfl, rfl, rfl, rfl⟩
  intro other different
  exact ⟨here.memory.get_record_ne key other replacement different,
    (here.memory.record key replacement).past_pushAttempt_ne key other previous different⟩

end Station

/-- Every receipt in a journal is one that some block bears out. -/
def Journal.Sound (lib : Platform) (journal : Journal) : Prop :=
  ∀ hash receipt, journal.confirmation (.evm hash) = some (.evm receipt) → ReceiptSound lib receipt

structure Station.Sound (lib : Platform) (here : Station) : Prop where
  memory : here.memory.Sound lib
  disk : ∀ journal, here.disk = some journal → journal.Sound lib

theorem JournalMove.sound {honest : Prop} {plan : Plan} {records : ActionKey → Transaction → Prop}
    {journal later : Journal} (move : JournalMove lib honest plan world records journal later)
    (trusted : honest) (sound : journal.Sound lib) :
    later.Sound lib := by
  cases move with
  | confirmEvm receipt receiptSound =>
    intro hash found confirmed
    by_cases same : HashText.evm hash = .evm receipt.transactionHash
    · rw [same, Journal.confirmation_confirm_self] at confirmed
      cases confirmed
      exact receiptSound trusted
    · rw [Journal.confirmation_confirm_ne _ _ same] at confirmed
      exact sound hash found confirmed
  | confirmCosmos hash height code response _ =>
    intro other found confirmed
    have different : HashText.evm other ≠ .cosmos hash := by
      intro same
      cases same
    rw [Journal.confirmation_confirm_ne _ _ different] at confirmed
    exact sound other found confirmed
  | retireEvm key old gasLimit _ _ _ => cases gasLimit <;> exact sound
  | retireCosmos key old gasLimit _ _ _ => cases gasLimit <;> exact sound
  | other later same =>
    intro hash receipt confirmed
    rw [Journal.confirmation, same.confirmations] at confirmed
    exact sound hash receipt confirmed
  | _ => exact sound

theorem Station.Sound.written {here : Station} (sound : here.Sound lib) {journal : Journal}
    (journalSound : journal.Sound lib) (outcome : WriteOutcome) :
    (here.written journal outcome).Sound lib := by
  refine ⟨journalSound, ?_⟩
  intro file onDisk
  simp only [Station.written] at onDisk
  split at onDisk
  · exact Option.some.inj onDisk ▸ journalSound
  · exact sound.disk file onDisk

theorem Transition.sound {honest : Prop} {plan : Plan} {policy : Policy} {here here' : Station}
    {world' : Chains lib}
    (transition : Transition lib honest plan policy here world here' world') (trusted : honest)
    (sound : here.Sound lib) :
    here'.Sound lib := by
  cases transition with
  | load journal outcome _ opened =>
    refine sound.written ?_ outcome
    rcases opened with onDisk | ⟨_, fingerprint, fresh⟩
    · exact sound.disk journal onDisk
    · intro hash receipt confirmed
      rw [fresh] at confirmed
      simp [Journal.confirmation, Journal.empty] at confirmed
  | commit journal outcome _ move => exact sound.written (move.sound trusted sound.memory) outcome
  | update state _ => exact ⟨sound.memory, sound.disk⟩
  | save outcome _ => exact ⟨sound.memory, sound.disk⟩
  | _ => exact sound

section Rules

variable {lib : Platform} {honest : Prop} {plan : Plan} {policy : Policy} {Value Result : Type}
variable {onDone : Value → Station → Chains lib → Prop}
variable {onFail : Stop → Station → Chains lib → Prop}
variable {here : Station} {world : Chains lib}

theorem keeps_sound {program : Deploy Value}
    (keeps : Keeps lib honest plan policy program onDone onFail here world)
    (sound : honest → here.Sound lib) :
    Keeps lib honest plan policy program
      (fun value after moved =>
        onDone value after moved ∧ (honest → after.Sound lib))
      onFail here world := by
  refine Meets.weaken (Meets.keeping keeps
      (fun here _ _ _ (kept : honest → here.Sound lib) => kept) ?_ sound)
    (fun _ _ _ ends => ends) (fun _ _ _ ends => ends.1)
  intro _ _ _ _ transition kept trusted
  exact transition.sound trusted (kept trusted)

theorem keeps_currentJournal {later : Journal → Deploy Value}
    (rest : ∀ moved, Evolves world moved → Keeps lib honest plan policy (later here.memory)
          onDone onFail here moved) :
    Keeps lib honest plan policy (currentJournal.bind later)
      onDone onFail here world := by
  refine Meets.read_bind (fun _ _ _ => rfl) (fun _ _ => .stutter) ?_
  intro moved evolved reply allowed
  have same : reply = here.memory := allowed
  subst same
  exact rest moved evolved

theorem keeps_currentState {later : State → Deploy Value}
    (rest : ∀ moved, Evolves world moved → Keeps lib honest plan policy (later here.context)
          onDone onFail here moved) :
    Keeps lib honest plan policy (currentState.bind later)
      onDone onFail here world := by
  refine Meets.read_bind (fun _ _ _ => rfl) (fun _ _ => .stutter) ?_
  intro moved evolved reply allowed
  have same : reply = here.context := allowed
  subst same
  exact rest moved evolved

theorem keeps_ask {op : Call} {later : op.Reply → Deploy Value}
    (reads : (deployMachine lib honest).Reads op)
    (rest : ∀ moved, Evolves world moved → ∀ reply,
        Keeps lib honest plan policy (later reply) onDone onFail here moved) :
    Keeps lib honest plan policy ((ask op).bind later)
      onDone onFail here world :=
  Meets.read_bind reads (fun _ _ => .stutter) fun moved evolved reply _ => rest moved evolved reply

theorem keeps_need {op : Call} {unpack : op.Reply → Option Result} {error : Stop}
    {later : Result → Deploy Value} (reads : (deployMachine lib honest).Reads op)
    (rest : ∀ moved, Evolves world moved → ∀ reply, answers lib honest here moved op reply →
          ∀ value, unpack reply = some value →
            Keeps lib honest plan policy (later value) onDone onFail here moved)
    (fails : ∀ moved, Evolves world moved → onFail error here moved) :
    Keeps lib honest plan policy ((need op unpack error).bind later)
      onDone onFail here world :=
  Meets.require_bind reads (fun _ _ => .stutter) rest fails

variable {later : Unit → Deploy Value}

theorem keeps_check {result : Except String Unit}
    (rest : result = .ok () → Keeps lib honest plan policy (later ()) onDone onFail here world)
    (fails : ∀ message, onFail (.failed message) here world) :
    Keeps lib honest plan policy ((check result).bind later)
      onDone onFail here world := by
  cases result with
  | ok _ => exact rest rfl
  | error message => exact fails message

theorem keeps_attemptValue {result : Except String Result} {later : Result → Deploy Value}
    (rest : ∀ value, result = .ok value →
        Keeps lib honest plan policy (later value) onDone onFail here world)
    (fails : ∀ message, onFail (.failed message) here world) :
    Keeps lib honest plan policy ((attemptValue result).bind later)
      onDone onFail here world := by
  cases result with
  | ok value => exact rest value rfl
  | error message => exact fails message

variable {onUnit : Unit → Station → Chains lib → Prop}

theorem keeps_writeJournal {journal : Journal}
    (moves : ∀ moved outcome, Evolves world moved → Transition lib honest plan policy here moved
          (here.written journal outcome) moved)
    (done : ∀ moved, Evolves world moved → onUnit () (here.written journal .ok) moved)
    (fails : ∀ moved outcome message, Evolves world moved →
        onFail (.failed message) (here.written journal outcome) moved) :
    Keeps lib honest plan policy (writeJournal journal)
      onUnit onFail here world := by
  refine Meets.perform_bind ?_
  intro moved evolved outcome _
  refine ⟨moves moved outcome evolved, ?_⟩
  cases outcome with
  | ok => exact done moved evolved
  | failedBefore => exact fails moved .failedBefore _ evolved
  | failedAfter => exact fails moved .failedAfter _ evolved

theorem keeps_confirmResult {hash : HashText} {result : Confirmation} (synced : here.Synced)
    (move : ∀ moved, Evolves world moved → JournalMove lib honest plan moved (policy.records here)
          here.memory (here.memory.confirm hash result))
    (done : ∀ after moved, Evolves world moved → here.SameCore after → onUnit () after moved)
    (fails : ∀ message after moved, Evolves world moved → here.SameCore after →
        onFail (.failed message) after moved) :
    Keeps lib honest plan policy (confirmResult hash result)
      onUnit onFail here world := by
  refine keeps_currentJournal fun read readEvolved => ?_
  refine keeps_writeJournal ?_ ?_ ?_
  · intro moved outcome evolved
    exact .commit _ outcome synced (move moved (readEvolved.trans evolved))
  · intro moved evolved
    exact done _ moved (readEvolved.trans evolved) (Station.sameCore_confirm synced hash result .ok)
  · intro moved outcome message evolved
    exact fails message _ moved (readEvolved.trans evolved)
      (Station.sameCore_confirm synced hash result outcome)

variable {key : ActionKey}

theorem keeps_getAction {later : Option Transaction → Deploy Value}
    (rest : ∀ moved, Evolves world moved →
        Keeps lib honest plan policy (later (here.memory.get key))
          onDone onFail here moved) :
    Keeps lib honest plan policy ((getAction key).bind later)
      onDone onFail here world :=
  keeps_currentJournal rest

theorem keeps_recordAction {transaction : Transaction} (synced : here.Synced)
    (move : ∀ moved, Evolves world moved → here.memory.get key = none →
        JournalMove lib honest plan moved (policy.records here)
          here.memory (here.memory.record key transaction))
    (rest : ∀ moved, Evolves world moved → here.memory.get key = none →
        Keeps lib honest plan policy (later ()) onDone onFail
          (here.written (here.memory.record key transaction) .ok) moved)
    (fails : ∀ stop after moved, onFail stop after moved) :
    Keeps lib honest plan policy
      ((recordAction key transaction).bind later) onDone onFail here world := by
  refine Meets.bind ?_
  refine keeps_currentJournal fun read readEvolved => ?_
  refine Meets.ensure_bind (fun absent => ?_) (fun _ => fails _ _ _)
  refine keeps_writeJournal ?_ ?_ (fun _ _ _ _ => fails _ _ _)
  · intro moved outcome evolved
    exact .commit _ outcome synced (move moved (readEvolved.trans evolved) absent)
  · intro moved evolved
    exact rest moved (readEvolved.trans evolved) absent

variable {previous : Transaction}

theorem keeps_replaceAction {replacement : Transaction} (synced : here.Synced)
    (current : here.memory.get key = some previous)
    (move : ∀ moved, Evolves world moved → JournalMove lib honest plan moved (policy.records here)
          here.memory (here.memory.replace key previous replacement))
    (rest : ∀ moved, Evolves world moved → Keeps lib honest plan policy (later ()) onDone onFail
          (here.written (here.memory.replace key previous replacement) .ok) moved)
    (fails : ∀ stop after moved, onFail stop after moved) :
    Keeps lib honest plan policy
      ((replaceAction key replacement).bind later) onDone onFail here world := by
  refine Meets.bind ?_
  refine keeps_currentJournal fun read readEvolved => ?_
  rw [current]
  refine keeps_writeJournal ?_ ?_ (fun _ _ _ _ => fails _ _ _)
  · intro moved outcome evolved
    exact .commit _ outcome synced (move moved (readEvolved.trans evolved))
  · intro moved evolved
    exact rest moved (readEvolved.trans evolved)

theorem keeps_retireAction {gasLimit : Option U64} (synced : here.Synced)
    (current : here.memory.get key = some previous)
    (move : ∀ moved, Evolves world moved → JournalMove lib honest plan moved (policy.records here)
          here.memory (here.memory.retire key previous gasLimit))
    (rest : ∀ moved, Evolves world moved → Keeps lib honest plan policy (later ()) onDone onFail
          (here.written (here.memory.retire key previous gasLimit) .ok) moved)
    (fails : ∀ stop after moved, onFail stop after moved) :
    Keeps lib honest plan policy
      ((retireAction key gasLimit).bind later) onDone onFail here world := by
  refine Meets.bind ?_
  refine keeps_currentJournal fun read readEvolved => ?_
  rw [current]
  refine keeps_writeJournal ?_ ?_ (fun _ _ _ _ => fails _ _ _)
  · intro moved outcome evolved
    exact .commit _ outcome synced (move moved (readEvolved.trans evolved))
  · intro moved evolved
    exact rest moved (readEvolved.trans evolved)

theorem keeps_askOperator {prompt : String} {later : Bool → Deploy Value}
    (rest : ∀ moved, Evolves world moved → ∀ answer,
        Keeps lib honest plan policy (later answer) onDone onFail here moved) :
    Keeps lib honest plan policy ((askOperator prompt).bind later)
      onDone onFail here world :=
  keeps_ask (fun _ _ _ => rfl) rest

theorem keeps_loadSession (fingerprint : Digest) (closed : here.memory = Journal.empty []) :
    Keeps lib honest plan policy (loadSession fingerprint)
      (fun _ after _ => after.Synced ∧ after.context = here.context ∧
        after.saved = here.saved ∧ after.launches = here.launches ∧
        (here.disk = some after.memory ∨
          here.disk = none ∧ after.memory = Journal.empty fingerprint))
      (fun _ after _ => after.context = here.context ∧
        after.saved = here.saved ∧ after.launches = here.launches)
      here world := by
  refine keeps_need (fun _ _ _ => rfl) ?_ (fun _ _ => ⟨rfl, rfl, rfl⟩)
  intro moved _ reply allowed saved unpacked
  have found : here.disk = saved := by
    rcases allowed with missing | read
    · rw [missing] at unpacked
      cases unpacked
    · rw [read] at unpacked
      exact Option.some.inj unpacked
  cases saved with
  | some journal =>
    refine Meets.ensure_bind (fun _ => ?_) (fun _ => ⟨rfl, rfl, rfl⟩)
    refine Meets.ensure_bind (fun _ => ?_) (fun _ => ⟨rfl, rfl, rfl⟩)
    refine keeps_writeJournal ?_ ?_ (fun _ _ _ _ => ⟨rfl, rfl, rfl⟩)
    · intro later outcome _
      exact .load journal outcome closed (.inl found)
    · intro later _
      exact ⟨rfl, rfl, rfl, rfl, .inl found⟩
  | none =>
    refine keeps_writeJournal ?_ ?_ (fun _ _ _ _ => ⟨rfl, rfl, rfl⟩)
    · intro later outcome _
      exact .load _ outcome closed (.inr ⟨found, fingerprint, rfl⟩)
    · intro later _
      exact ⟨rfl, rfl, rfl, rfl, .inr ⟨found, rfl⟩⟩

end Rules

end Axe.Hardened

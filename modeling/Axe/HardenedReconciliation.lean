import Axe.HardenedAtMostOnce
import Axe.HardenedProgress
import Axe.HardenedWaits

namespace Axe.Hardened

/-!
# The order of the reconcile pass

At the start of a launch the recorded actions are brought to their results, one
after the other, in the order of their keys.  The pass waits for the inclusion
of one transaction before it looks at the next one.

A node includes the transactions of an account in the order of their nonces.
After a reorganisation the pass can therefore wait for a transaction while one
with a lower nonce is not sent again yet.  It does not if the order of the keys
is the order of the nonces, for the transactions that are not on the chain.
-/


/-- The nonce of the sender was used. -/
def EvmChain.Uses {lib : Platform} (chain : EvmChain lib) (sender : Address) (nonce : U64) : Prop :=
  ∃ entry ∈ blockEntries chain.blocks, evmSlot lib entry = (some sender, nonce)

instance {lib : Platform} (chain : EvmChain lib) (sender : Address) (nonce : U64) :
    Decidable (chain.Uses sender nonce) :=
  inferInstanceAs (Decidable (∃ entry ∈ _, _))

/-- The chain has the transaction. -/
def EvmChain.Bears {lib : Platform} (chain : EvmChain lib) (hash : Digest) : Prop :=
  ∃ entry ∈ blockEntries chain.blocks, lib.txHash entry.1 = hash

/-- The chains grow without a reorganisation. -/
def Chains.Steady {lib : Platform} (world later : Chains lib) : Prop :=
  world.Evolve later ∧ world.evm.blocks <+: later.evm.blocks

/-- The deployment while the chains are steady. -/
def steadyMachine (lib : Platform) : Machine deployInterface Station (Chains lib) :=
  { deployMachine lib True with evolve := Chains.Steady }

section Steady

variable {lib : Platform}

theorem blockEntries_prefix {blocks later : List EvmBlock} {entry : Envelope × Bool}
    (grows : blocks <+: later) (member : entry ∈ blockEntries blocks) :
    entry ∈ blockEntries later := by
  obtain ⟨block, listed, inBlock⟩ := List.mem_flatMap.mp member
  exact List.mem_flatMap.mpr ⟨block, grows.subset listed, inBlock⟩

variable {later chain : EvmChain lib}

theorem EvmChain.Uses.grows {sender : Address} {nonce : U64} (uses : chain.Uses sender nonce)
    (grows : chain.blocks <+: later.blocks) :
    later.Uses sender nonce := by
  obtain ⟨entry, member, slot⟩ := uses
  exact ⟨entry, blockEntries_prefix grows member, slot⟩

theorem EvmChain.Bears.grows {hash : Digest} (bears : chain.Bears hash)
    (grows : chain.blocks <+: later.blocks) :
    later.Bears hash := by
  obtain ⟨entry, member, hashed⟩ := bears
  exact ⟨entry, blockEntries_prefix grows member, hashed⟩

theorem steady_grows {world later : Chains lib}
    (evolved : (steadyMachine lib).Evolves world later) :
    world.evm.blocks <+: later.evm.blocks := by
  induction evolved with
  | refl => exact List.prefix_rfl
  | tail _ step ih => exact ih.trans step.2

theorem EvmChain.Bears.uses {tx : EvmTransaction} (bears : chain.Bears tx.hash)
    (made : (Transaction.evm tx).Made lib) :
    chain.Uses tx.sender tx.nonce := by
  obtain ⟨entry, member, hashed⟩ := bears
  obtain ⟨envelope, made⟩ := made
  have same : entry.1 = envelope := lib.txHash_injective (hashed.trans made.hash)
  refine ⟨entry, member, ?_⟩
  rw [evmSlot, same, made.sender, made.nonce]

theorem EvmChain.FailedFinally.uses {sender : Address} {nonce : U64}
    (failed : chain.FailedFinally sender nonce) :
    chain.Uses sender nonce := by
  obtain ⟨envelope, signed, sameNonce, finalizes⟩ := failed
  exact ⟨_, finalizes.includes, by rw [evmSlot, signed, sameNonce]⟩

variable {receipt : Receipt}

theorem StandsOn.bears (stands : StandsOn chain receipt) (sound : ReceiptSound lib receipt) :
    chain.Bears receipt.transactionHash := by
  obtain ⟨height, block, _, placed, hash⟩ := stands
  obtain ⟨named, envelope, namedHash, listed, hashed⟩ := sound
  have same : block = named := lib.blockHash_injective (Option.some.inj (hash.symm.trans namedHash))
  subst same
  exact ⟨_, List.mem_flatMap.mpr ⟨block, List.mem_of_getElem? placed, listed⟩, hashed⟩

variable {plan : Plan} {policy : Policy} {Value : Type} {here : Station} {world : Chains lib}

/-- A contract of the process while the chain is not reorganised. -/
abbrev Steadily (lib : Platform) (plan : Plan) (policy : Policy) (program : Deploy Value)
    (onDone : Value → Station → Chains lib → Prop) (here : Station) (world : Chains lib) : Prop :=
  Meets (steadyMachine lib) (Transition lib True plan policy)
    program onDone (fun _ _ _ => True) here world

variable {program : Deploy Value} {onDone : Value → Station → Chains lib → Prop}

theorem steadily_of_keeps
    (keeps : Keeps lib True plan policy program onDone (fun _ _ _ => True) here world) :
    Steadily lib plan policy program onDone here world :=
  Meets.slower keeps fun _ _ steady => steady.1

theorem Steadily.bearing {hash : Digest}
    (meets : Steadily lib plan policy program onDone here world) (bears : world.evm.Bears hash) :
    Steadily lib plan policy program (fun _ _ moved => moved.evm.Bears hash)
      here world := by
  let kept : Station → Chains lib → Prop := fun _ moved => moved.evm.Bears hash
  have keeping := @Meets.keeping _ _ _ _ _ _ _ _ _ _ _ _ kept meets
      (fun _ _ _ evolved before => before.grows (steady_grows evolved))
      (fun transition before => by
        show EvmChain.Bears _ _
        rw [transition.chains.1]
        exact before)
      bears
  exact keeping.weaken (fun _ _ _ ends => ends.2) (fun _ _ _ _ => trivial)

variable {depth : EvmConfirmationPolicy} {otherwise : Deploy Receipt}

theorem steadily_settleReceipt (synced : here.Synced) (sound : ReceiptSound lib receipt)
    (rest : ∀ moved, Steadily lib plan policy otherwise
          (fun _ _ moved => moved.evm.Bears receipt.transactionHash) here moved) :
    Steadily lib plan policy (settleReceipt depth receipt otherwise)
      (fun _ _ moved => moved.evm.Bears receipt.transactionHash) here world := by
  refine Meets.orFail_bind (fun number numbered => ?_) (fun _ => trivial)
  refine Meets.bind ?_
  cases requiredHeight depth number with
  | error message => trivial
  | ok target =>
    refine Meets.require_bind (fun _ _ _ => rfl) (fun _ _ => .stutter) ?_ (fun _ _ => trivial)
    intro moved _ reply _ found _
    refine Meets.orFail_bind (fun head _ => ?_) (fun _ => trivial)
    split
    · refine (steadily_of_keeps (keeps_canonical receipt)).andThen (fun _ _ _ _ => trivial) ?_
      intro stands after later checked
      obtain ⟨rfl, _, standing⟩ := checked
      refine Meets.ensure_bind (fun stood => ?_) (fun _ => trivial)
      have bears := (standing trivial stood).bears sound
      have confirms : Keeps lib True plan policy
            ((confirmResult (.evm receipt.transactionHash) (.evm receipt)).bind
              fun _ => .done receipt)
            (fun _ _ _ => True) (fun _ _ _ => True) after later := by
        refine Meets.bind (keeps_confirmResult synced (fun _ _ => ?_)
          (fun _ _ _ _ => trivial) (fun _ _ _ _ _ => trivial))
        exact .confirmEvm receipt fun _ => sound
      exact (steadily_of_keeps confirms).bearing bears
    · exact rest moved

variable {key : ActionKey}

theorem steadily_waitReceipt (synced : here.Synced) (rounds : Nat)
    (sound : ReceiptSound lib receipt) :
    Steadily lib plan policy (waitReceipt key depth rounds receipt)
      (fun _ _ moved => moved.evm.Bears receipt.transactionHash) here world := by
  induction rounds generalizing world receipt with
  | zero => exact steadily_settleReceipt synced sound fun _ => trivial
  | succ rounds ih =>
    refine steadily_settleReceipt synced sound fun moved => ?_
    refine Meets.read_bind (fun _ _ _ => rfl) (fun _ _ => .stutter) ?_
    intro _ _ _ _
    refine Meets.require_bind (fun _ _ _ => rfl) (fun _ _ => .stutter) ?_ (fun _ _ => trivial)
    intro later _ reply allowed found unpacked
    refine Meets.orFail_bind (fun again shown => ?_) (fun _ => trivial)
    subst shown
    refine Meets.ensure_bind (fun sameHash => ?_) (fun _ => trivial)
    rw [← sameHash]
    exact ih (allowed trivial again unpacked).sound

theorem steadily_waitConfirmed (synced : here.Synced) (sound : ReceiptSound lib receipt) :
    Steadily lib plan policy (waitConfirmed key depth receipt)
      (fun _ _ moved => moved.evm.Bears receipt.transactionHash) here world := by
  refine Meets.read_bind (fun _ _ _ => rfl) (fun _ _ => .stutter) ?_
  intro _ _ rounds _
  refine (steadily_waitReceipt synced rounds sound).andThen (fun _ _ _ _ => trivial) ?_
  intro result after moved bears
  exact Meets.ensure_bind (fun _ => bears) (fun _ => trivial)

variable {attempts : List EvmTransaction}

theorem steadily_included (synced : here.Synced) (sound : here.memory.Sound lib)
    (rest : ∀ moved, Steadily lib plan policy otherwise
          (fun _ _ moved => ∃ attempt ∈ attempts, moved.evm.Bears attempt.hash)
          here moved) :
    Steadily lib plan policy
      ((included attempts).bind fun found =>
        match found with
        | some receipt => waitConfirmed key depth receipt
        | none => otherwise)
      (fun _ _ moved => ∃ attempt ∈ attempts, moved.evm.Bears attempt.hash)
      here world := by
  refine (steadily_of_keeps (keeps_included (fun _ => sound) attempts)).andThen
    (fun _ _ _ _ => trivial) ?_
  intro found after moved shown
  obtain ⟨rfl, told⟩ := shown
  cases found with
  | none => exact rest moved
  | some receipt =>
    obtain ⟨⟨attempt, member, hashed⟩, receiptSound⟩ := told receipt rfl
    refine (steadily_waitConfirmed synced (receiptSound trivial)).mono ?_
    intro _ _ later bears
    exact ⟨attempt, member, hashed ▸ bears⟩

theorem steadily_awaitInclusion (synced : here.Synced) (sound : here.memory.Sound lib)
    (rounds : Nat) :
    Steadily lib plan policy (awaitInclusion key depth attempts rounds)
      (fun _ _ moved => ∃ attempt ∈ attempts, moved.evm.Bears attempt.hash)
      here world := by
  induction rounds generalizing world with
  | zero => exact steadily_included synced sound fun _ => trivial
  | succ rounds ih =>
    refine steadily_included synced sound fun moved => ?_
    refine Meets.read_bind (fun _ _ _ => rfl) (fun _ _ => .stutter) ?_
    intro _ _ _ _
    exact ih

/-- All records are transactions that were really made. -/
def AllMade (lib : Platform) (journal : Journal) : Prop :=
  ∀ key, ∀ transaction ∈ journal.history key, transaction.Made lib

/-- What is known of the journal before one of its actions is recovered. -/
structure Prepared (lib : Platform) (here : Station) : Prop where
  sound : here.Sound lib
  memory : AllMade lib here.memory
  disk : ∀ file, here.disk = some file → AllMade lib file

theorem Prepared.transition {here' : Station} {world' : Chains lib}
    (transition : Transition lib True plan policy here world here' world')
    (prepared : Prepared lib here) :
    Prepared lib here' := by
  have made : JournalInvariant lib True plan anyChange fun journal _ _ =>
      AllMade lib journal := made_invariant
  obtain ⟨memory, disk⟩ := made.transition transition trivial ⟨prepared.memory, prepared.disk⟩
  exact ⟨transition.sound trivial prepared.sound, memory, disk⟩

theorem Steadily.prepared (meets : Steadily lib plan policy program onDone here world)
    (prepared : Prepared lib here) :
    Steadily lib plan policy program
      (fun value after moved => onDone value after moved ∧ Prepared lib after)
      here world := by
  let kept : Station → Chains lib → Prop := fun after _ => Prepared lib after
  have keeping := @Meets.keeping _ _ _ _ _ _ _ _ _ _ _ _ kept meets (fun _ _ _ _ before => before)
      Prepared.transition prepared
  exact keeping.weaken (fun _ _ _ ends => ends) (fun _ _ _ _ => trivial)

variable {saved : EvmTransaction}

theorem made_competingAttempts {journal : Journal} {attempt : EvmTransaction}
    (made : AllMade lib journal) (current : journal.get key = some (.evm saved))
    (member : attempt ∈ competingAttempts journal key saved) :
    (Transaction.evm attempt).Made lib := by
  obtain ⟨transaction, listed, chosen⟩ := List.mem_filterMap.mp member
  have inHistory : transaction ∈ journal.history key := by
    rcases List.mem_append.mp listed with past | last
    · exact List.mem_append_left _ past
    · exact (List.mem_singleton.mp last) ▸ mem_history_of_get current
  cases transaction with
  | evm tx =>
    simp only at chosen
    split at chosen
    · cases chosen
      exact made key _ inHistory
    · cases chosen
  | cosmos _ => cases chosen

variable {session : Session}

theorem steadily_resumeEvm {scope : Scope} {intent : Digest} (synced : here.Synced)
    (prepared : Prepared lib here) (current : here.memory.get key = some (.evm saved)) :
    Steadily lib session.plan policy
      (resumeEvm lib session scope saved intent key)
      (fun _ _ moved => moved.evm.Uses saved.sender saved.nonce) here world := by
  have competing : ∀ {moved : Chains lib},
        (∃ attempt ∈ competingAttempts here.memory key saved, moved.evm.Bears attempt.hash) →
        moved.evm.Uses saved.sender saved.nonce := by
    rintro moved ⟨attempt, member, bears⟩
    obtain ⟨sender, nonce⟩ := mem_competingAttempts member
    exact sender ▸ nonce ▸ bears.uses (made_competingAttempts prepared.memory current member)
  refine Meets.ensure_bind (fun identity => ?_) (fun _ => trivial)
  refine Meets.read_bind (fun _ _ _ => rfl) (fun _ _ => .stutter) ?_
  rintro _ _ _ rfl
  refine (steadily_of_keeps (keeps_included (fun _ => prepared.sound.memory) _)).andThen
    (fun _ _ _ _ => trivial) ?_
  intro found after _ shown
  obtain ⟨rfl, told⟩ := shown
  cases found with
  | some receipt =>
    obtain ⟨⟨attempt, member, hashed⟩, receiptSound⟩ := told receipt rfl
    refine (steadily_waitConfirmed synced (receiptSound trivial)).mono ?_
    intro _ _ later bears
    exact competing ⟨attempt, member, hashed ▸ bears⟩
  | none =>
    refine Meets.require_bind (fun _ _ _ => rfl) (fun _ _ => .stutter) ?_ (fun _ _ => trivial)
    intro _ _ _ _ count _
    refine Meets.ensure_bind (fun _ => ?_) (fun _ => trivial)
    simp only [Program.bind_eq, latestAttempts]
    split
    · refine Meets.bind (((steadily_of_keeps (keeps_bumpEvm synced current)).prepared
        prepared).andThen (fun _ _ _ _ => trivial) ?_)
      intro replacement now _ bumped
      obtain ⟨⟨touched, _, nowCurrent, hash, sender, nonce⟩, preparedNow⟩ := bumped
      refine Meets.orFail_bind (fun latest last => ?_) (fun _ => trivial)
      have isReplacement : replacement = latest := by simpa using last
      subst isReplacement
      refine (steadily_of_keeps (keeps_broadcastEvm touched.synced
        (mem_history_of_get nowCurrent) hash)).andThen (fun _ _ _ _ => trivial) ?_
      intro _ sent _ unchanged
      subst unchanged
      refine Meets.read_bind (fun _ _ _ => rfl) (fun _ _ => .stutter) ?_
      intro _ _ rounds _
      refine (steadily_awaitInclusion touched.synced preparedNow.sound.memory
        rounds).mono ?_
      rintro _ _ later ⟨attempt, member, bears⟩
      rcases List.mem_append.mp member with old | new
      · exact competing ⟨attempt, old, bears⟩
      · cases List.mem_singleton.mp new
        have made := preparedNow.memory key _ (mem_history_of_get nowCurrent)
        exact sender ▸ nonce ▸ bears.uses made
    · refine Meets.orFail_bind (fun latest last => ?_) (fun _ => trivial)
      have isSaved : saved = latest :=
        Option.some.inj ((competingAttempts_getLast _ _ _).symm.trans last)
      subst isSaved
      refine (steadily_of_keeps (keeps_broadcastEvm synced (mem_history_of_get current)
        identity.2.symm)).andThen (fun _ _ _ _ => trivial) ?_
      intro _ _ _ unchanged
      subst unchanged
      refine Meets.read_bind (fun _ _ _ => rfl) (fun _ _ => .stutter) ?_
      intro _ _ rounds _
      exact (steadily_awaitInclusion synced prepared.sound.memory rounds).weaken
        (fun _ _ _ ends => competing ends) (fun _ _ _ ends => ends)

theorem steadily_reconcileAction {lcd : String} {action : ActionKey × Transaction}
    (synced : here.Synced) (prepared : Prepared lib here)
    (current : here.memory.get action.1 = some action.2) :
    Steadily lib session.plan policy
      (reconcileAction lib session lcd action)
      (fun _ after moved =>
        here.Touches action.1 after ∧ Prepared lib after ∧
          ∀ tx, action.2 = .evm tx → moved.evm.Uses tx.sender tx.nonce)
      here world := by
  obtain ⟨key, saved⟩ := action
  have touches : Steadily lib session.plan policy
        (reconcileAction lib session lcd (key, saved))
        (fun _ after _ => here.Touches key after) here world := by
    refine steadily_of_keeps (keeps_currentState fun _ _ => ?_)
    refine keeps_attemptValue (fun signer _ => ?_) (fun _ => trivial)
    exact keeps_recoverAction synced (fun _ => prepared.sound.memory) current
  have onChain : Steadily lib session.plan policy
        (reconcileAction lib session lcd (key, saved))
        (fun _ _ moved => ∀ tx, saved = .evm tx → moved.evm.Uses tx.sender tx.nonce)
        here world := by
    refine Meets.read_bind (fun _ _ _ => rfl) (fun _ _ => .stutter) ?_
    intro _ _ state _
    refine Meets.bind ?_
    cases signerFor state key.step with
    | error message => trivial
    | ok signer =>
      refine (steadily_of_keeps (keeps_retryFailed synced
        (fun _ => prepared.sound.memory) current)).andThen (fun _ _ _ _ => trivial) ?_
      rintro _ now _ ⟨rfl, rfl⟩
      cases saved with
      | cosmos saved =>
        exact (steadily_of_keeps (keeps_reconcileCosmos synced current)).weaken
          (fun _ _ _ _ _ absurdKind => by cases absurdKind) (fun _ _ _ ends => ends)
      | evm saved =>
        refine Meets.bind (Meets.bind ?_)
        refine (steadily_resumeEvm synced prepared current).mono ?_
        rintro _ _ moved uses tx same
        cases same
        exact uses
  refine ((touches.prepared prepared).both onChain).weaken ?_ (fun _ _ _ _ => trivial)
  rintro _ after moved ⟨⟨touched, preparedNow⟩, uses⟩
  exact ⟨touched, preparedNow, uses⟩

end Steady

section Pass

variable {lib : Platform}

/--
The pass at the start of a launch, on a chain that is not reorganised during the
pass.  It begins with the journal file of some moment of a deployment.
-/
def PassRuns (lib : Platform) (session : Session) (lcd : String)
    (found : DeployConfig lib) (file : Journal) (last : DeployConfig lib) : Prop :=
  (Service.once (steadyMachine lib)).Runs Service.Permit.anything
    ⟨.busy (reconcilePass lib session lcd file.ordered),
      { found.here with memory := file }, found.world⟩ last

def DeployConfig.awaited (config : DeployConfig lib) : Option ActionKey :=
  match config.activity with
  | .busy (.call op _) => Call.awaited op
  | _ => none

/--
The order of the keys is the order of the nonces, for every recorded transaction
whose nonce is not used on the chain and every later one of its sender.
-/
def NonceOrdered (file : Journal) (chain : EvmChain lib) : Prop :=
  ∀ lower key lowerTx tx, file.get lower = some (.evm lowerTx) → file.get key = some (.evm tx) →
      lowerTx.sender = tx.sender → lowerTx.nonce < tx.nonce →
        ¬ chain.Uses lowerTx.sender lowerTx.nonce → lower.text < key.text

def Transaction.asEvm : Transaction → Option EvmTransaction
  | .evm tx => some tx
  | .cosmos _ => none

def Journal.getEvm (journal : Journal) (key : ActionKey) : Option EvmTransaction :=
  (journal.get key).bind Transaction.asEvm

variable {tx : EvmTransaction}

theorem Journal.getEvm_eq_some {journal : Journal} {key : ActionKey} :
    journal.getEvm key = some tx ↔ journal.get key = some (.evm tx) := by
  unfold Journal.getEvm
  cases journal.get key with
  | none => simp
  | some transaction => cases transaction <;> simp [Transaction.asEvm]

theorem nonceOrdered_iff (file : Journal) (chain : EvmChain lib) : NonceOrdered file chain ↔
      ∀ lower ∈ file.ordered.map Prod.fst, ∀ key ∈ file.ordered.map Prod.fst,
        ∀ lowerTx ∈ file.getEvm lower, ∀ tx ∈ file.getEvm key,
          lowerTx.sender = tx.sender → lowerTx.nonce < tx.nonce →
            ¬ chain.Uses lowerTx.sender lowerTx.nonce → lower.text < key.text := by
  have listed : ∀ {key transaction}, file.get key = some transaction →
        key ∈ file.ordered.map Prod.fst := by
    intro key transaction current
    refine List.mem_map.mpr ⟨(key, transaction), ?_, rfl⟩
    refine (List.perm_insertionSort _ _).mem_iff.mpr (List.mem_map.mpr ?_)
    exact ⟨⟨key, transaction⟩, AList.mem_lookup_iff.mp current, rfl⟩
  constructor
  · intro ordered lower _ key _ lowerTx isLower tx isTx
    exact ordered lower key lowerTx tx (Journal.getEvm_eq_some.mp isLower)
      (Journal.getEvm_eq_some.mp isTx)
  · intro ordered lower key lowerTx tx isLower isTx
    exact ordered lower (listed isLower) key (listed isTx)
      lowerTx (Journal.getEvm_eq_some.mpr isLower) tx (Journal.getEvm_eq_some.mpr isTx)

instance (file : Journal) (chain : EvmChain lib) : Decidable (NonceOrdered file chain) :=
  decidable_of_iff _ (nonceOrdered_iff file chain).symm

theorem ordered_pairwise (journal : Journal) :
    journal.ordered.Pairwise fun first second => first.1.text ≤ second.1.text := by
  have total : Std.Total fun first second : ActionKey × Transaction =>
      first.1.text ≤ second.1.text := ⟨fun _ _ => String.le_total _ _⟩
  have trans : IsTrans (ActionKey × Transaction) fun first second =>
      first.1.text ≤ second.1.text := ⟨fun _ _ _ => String.le_trans⟩
  exact List.pairwise_insertionSort _ _

variable {rest : List (ActionKey × Transaction)} {action : ActionKey × Transaction}

theorem mem_before_of_text {journal : Journal} {before : List (ActionKey × Transaction)}
    {lower : ActionKey} {transaction : Transaction}
    (split : journal.ordered = before ++ action :: rest)
    (current : journal.get lower = some transaction) (earlier : lower.text < action.1.text) :
    (lower, transaction) ∈ before := by
  have listed : (lower, transaction) ∈ journal.ordered := by
    refine (List.perm_insertionSort _ _).mem_iff.mpr (List.mem_map.mpr ?_)
    exact ⟨⟨lower, transaction⟩, AList.mem_lookup_iff.mp current, rfl⟩
  rw [split] at listed
  rcases List.mem_append.mp listed with inBefore | notBefore
  · exact inBefore
  · have sorted := ordered_pairwise journal
    rw [split] at sorted
    have later := (List.pairwise_append.mp sorted).2.1
    rcases List.mem_cons.mp notBefore with isAction | inRest
    · exact absurd earlier (by rw [← isAction]; exact String.lt_irrefl _)
    · have notEarlier : action.1.text ≤ lower.text :=
        (List.pairwise_cons.mp later).1 (lower, transaction) inRest
      exact absurd earlier (String.not_lt.mpr notEarlier)

structure PassAt (file : Journal) (chain : EvmChain lib)
    (rest : List (ActionKey × Transaction)) (here : Station) (world : Chains lib) : Prop where
  synced : here.Synced
  prepared : Prepared lib here
  lists : Lists rest here.memory
  grown : chain.blocks <+: world.evm.blocks
  finished : ∃ before, file.ordered = before ++ rest ∧
      ∀ action ∈ before, ∀ tx, action.2 = .evm tx → world.evm.Uses tx.sender tx.nonce

/-- The recorded transactions of a sender before a nonce are on the chain. -/
def LowerUsed (file : Journal) (key : ActionKey) (world : Chains lib) : Prop :=
  ∀ tx, file.get key = some (.evm tx) → ∀ lower lowerTx, .evm lowerTx ∈ file.history lower →
      lowerTx.sender = tx.sender → lowerTx.nonce < tx.nonce →
        world.evm.Uses lowerTx.sender lowerTx.nonce

theorem open_is_current {file : Journal} {chain : EvmChain lib} {key : ActionKey}
    (settled : (file.ledger key).Settled Transaction.slot (EvmLost chain))
    (recorded : .evm tx ∈ file.history key) (unused : ¬ chain.Uses tx.sender tx.nonce) :
    ∃ current, file.get key = some (.evm current) ∧
      current.sender = tx.sender ∧ current.nonce = tx.nonce := by
  by_contra none
  have apart : ∀ latest, (file.ledger key).current = some latest →
        Transaction.slot (.evm tx) ≠ latest.slot := by
    intro latest isLatest sameSlot
    cases latest with
    | evm current =>
      simp only [Transaction.slot, Sum.inl.injEq, Prod.mk.injEq] at sameSlot
      exact none ⟨current, isLatest, sameSlot.1.symm, sameSlot.2.symm⟩
    | cosmos _ => simp [Transaction.slot] at sameSlot
  rcases List.mem_append.mp recorded with past | current
  · have lost : EvmLost chain (.evm tx) := settled _ past apart
    exact unused lost.uses
  · exact apart _ (Option.mem_toList.mp current) rfl

theorem PassAt.lowerUsed {file : Journal} {found : Chains lib} {here : Station}
    {world : Chains lib} (at' : PassAt file found.evm (action :: rest) here world)
    (settled : ∀ key, (file.ledger key).Settled Transaction.slot (EvmLost found.evm))
    (ordered : NonceOrdered file found.evm) :
    LowerUsed file action.1 world := by
  intro tx current lower lowerTx recorded sender nonce
  by_cases used : found.evm.Uses lowerTx.sender lowerTx.nonce
  · exact used.grows at'.grown
  · obtain ⟨latest, isLatest, sameSender, sameNonce⟩ :=
      open_is_current (settled lower) recorded used
    rw [← sameSender] at used sender ⊢
    rw [← sameNonce] at used nonce ⊢
    have earlier := ordered lower action.1 latest tx isLatest current sender nonce used
    obtain ⟨before, split, finished⟩ := at'.finished
    exact finished _ (mem_before_of_text split isLatest earlier) latest rfl

variable {session : Session} {lcd : String}

theorem PassAt.guarded {file : Journal} {found : Chains lib} {action : ActionKey × Transaction}
    {rest : List (ActionKey × Transaction)} {here : Station} {world : Chains lib}
    (at' : PassAt file found.evm (action :: rest) here world)
    (settled : ∀ key, (file.ledger key).Settled Transaction.slot (EvmLost found.evm))
    (ordered : NonceOrdered file found.evm) :
    Guarded (steadyMachine lib)
      (fun _ moved op =>
        ∀ key, Call.awaited op = some key → LowerUsed file key moved)
      (reconcileAction lib session lcd action)
      (fun _ after moved => PassAt file found.evm rest after moved) here world := by
  let kept : Station → Chains lib → Prop := fun _ moved => world.evm.blocks <+: moved.evm.blocks
  have current := at'.lists.current action List.mem_cons_self
  have meets : Steadily lib session.plan ⟨fun _ _ _ => True, fun _ _ => True, fun _ => True⟩
        (reconcileAction lib session lcd action) _ here world :=
    steadily_reconcileAction at'.synced at'.prepared current
  have keeps := @Meets.keeping _ _ _ _ _ _ _ _ _ _ _ _ kept meets
    (fun _ _ _ evolved before => before.trans (steady_grows evolved))
    (fun transition before => by
      show _ <+: _
      rw [transition.chains.1]
      exact before)
    List.prefix_rfl
  have lowerUsed := at'.lowerUsed settled ordered
  refine Guarded.weaken (@Meets.guarded _ _ _ _ _ _ _ _ _ _ _ _ _ _ kept keeps
    (only_reconcileAction lib session lcd action)
    (fun _ _ _ evolved before => before.trans (steady_grows evolved))
    (fun transition before => by
      show _ <+: _
      rw [transition.chains.1]
      exact before)
    ?_ List.prefix_rfl) ?_
  · intro _ moved op grown waits key awaits tx isTx lower lowerTx recorded sender nonce
    cases waits key awaits
    exact (lowerUsed tx isTx lower lowerTx recorded sender nonce).grows grown
  · rintro _ after moved ⟨⟨touched, prepared, uses⟩, grown⟩
    obtain ⟨before, split, finished⟩ := at'.finished
    refine ⟨touched.synced, prepared, at'.lists.touched touched, at'.grown.trans grown,
      before ++ [action], by simpa using split, ?_⟩
    intro other member tx same
    rcases List.mem_append.mp member with old | new
    · exact (finished other old tx same).grows grown
    · cases List.mem_singleton.mp new
      exact uses tx same

/--
For every journal file of a deployment and every chain that the deployment can
find, also after reorganisations: if the keys of the transactions that are not
on the chain are in the order of their nonces, then the pass never waits for the
inclusion of a transaction while another recorded one of its sender, with a
lower nonce, is neither on the chain nor sent in this pass.
-/
theorem recovery_follows_nonces
    {plan : Plan}
    {first found last : DeployConfig lib}
    {file : Journal}
    {key lower : ActionKey}
    {tx lowerTx : EvmTransaction}
    (run : RunnerRuns lib True first found)
    (planned : first.Planned plan)
    (onDisk : found.here.disk = some file)
    (ordered : NonceOrdered file found.world.evm)
    (pass : PassRuns lib session lcd found file last)
    (waits : last.awaited = some key)
    (current : file.get key = some (.evm tx))
    (recorded : .evm lowerTx ∈ file.history lower)
    (sender : lowerTx.sender = tx.sender)
    (nonce : lowerTx.nonce < tx.nonce) :
    last.world.evm.Uses lowerTx.sender lowerTx.nonce ∨
      .evm lowerTx.raw ∈ last.world.handed.drop found.world.handed.length := by
  have sound : found.here.Sound lib := by
    obtain ⟨saved, underway⟩ := planned.underway
    let nothing : Station → Chains lib → Prop := fun _ _ => True
    exact (@RunnerRuns.invariant lib True plan nothing (fun _ _ _ => trivial)
      (fun _ _ => trivial) (fun _ _ _ => trivial) _ _ run ⟨saved, 0, underway⟩
      (fun _ => planned.sound) planned.orderly trivial).2.1 trivial
  have made : AllMade lib file := (made_invariant.reachedByRunner run planned).2 file onDisk
  have settled := ((evm_settled anyChange).reachedByRunner run planned).2 file onDisk trivial
  have start : PassAt file found.world.evm file.ordered
        { found.here with memory := file } found.world := by
    refine ⟨?_, ⟨⟨sound.disk file onDisk, sound.disk⟩, made, ?_⟩, lists_ordered file,
      List.prefix_rfl, [], rfl, by simp⟩
    · simp [Station.Synced, onDisk]
    · intro other isFile
      cases onDisk.symm.trans isFile
      exact made
  let waitsFairly : Station → Chains lib → Call → Prop := fun _ moved op =>
      ∀ key, Call.awaited op = some key → LowerUsed file key moved
  have watched : Guarded (steadyMachine lib) waitsFairly
        (reconcilePass lib session lcd file.ordered) (fun _ _ _ => True)
        { found.here with memory := file } found.world := by
    refine Guarded.weaken (Guarded.each ?_ file.ordered start) (fun _ _ _ _ => trivial)
    intro action rest here world at'
    exact at'.guarded settled ordered
  left
  unfold DeployConfig.awaited at waits
  split at waits
  · rename_i op next calls
    have fairly : waitsFairly last.here last.world op :=
      Service.Runs.calls_guarded pass watched calls
    exact fairly key waits tx current lower lowerTx recorded sender nonce
  · cases waits

end Pass

namespace Sample

def passResponder : @Responder deployInterface Stop Station (Chains platform) Empty
      (Service.once (steadyMachine platform)) Happening Manner where
  move := fun happening world =>
    ((happening.move world).bind world.move).filter fun later =>
      world.evm.blocks <+: later.evm.blocks
  move_sound := by
    intro happening world later moved
    obtain ⟨found, grows⟩ := Option.filter_eq_some_iff.mp moved
    obtain ⟨step, _, stepped⟩ := Option.bind_eq_some_iff.mp found
    exact ⟨⟨step, stepped⟩, of_decide_eq_true grows⟩
  reply := fun manner here world op => some (replyTo manner here world op)
  reply_sound := by
    intro manner here world op answer replied
    cases replied
    exact replyTo_allowed True manner here world op

def passSession : Session := ⟨plan, {}⟩

def replayPass (found : DeployConfig platform) (file : Journal)
    (script : List (Event Happening Empty Manner)) : Option (DeployConfig platform) :=
  passResponder.play Service.Permit.anything script
    ⟨.busy (reconcilePass platform passSession "lcd" file.ordered),
      { found.here with memory := file }, found.world⟩

theorem replayPass_run {script : RunnerScript} {further : List (Event Happening Empty Manner)}
    {holds : DeployConfig platform → Journal → DeployConfig platform → Prop}
    [∀ found file last, Decidable (holds found file last)]
    (replayed : ((replayRunner plannedStart script).any fun found =>
        found.here.disk.any fun file =>
          (replayPass found file further).any fun last => holds found file last) = true) :
    ∃ found file last, RunnerRuns platform True plannedStart found ∧ found.here.disk = some file ∧
        PassRuns platform passSession "lcd" found file last ∧ holds found file last := by
  obtain ⟨found, run, passed⟩ := Responder.exists_run replayed
  obtain ⟨file, onDisk, checked⟩ := (Option.any_eq_true _ _).mp passed
  obtain ⟨last, pass, holding⟩ := Responder.exists_run checked
  exact ⟨found, file, last, run, onDisk, pass, of_decide_eq_true holding⟩

def probeLaunch : RunnerScript :=
  [ .launch ⟨{}, plannedState⟩, .answer .prompt 63, .world .mine, .answer .prompt 23 ]

/-- The first launch ends after the next step sent its transaction. -/
def deployerLaunch : RunnerScript := probeLaunch ++ [.world .mine, .answer .prompt 38]

/-- The process stops, and another block takes the place of all blocks. -/
def reorganised : RunnerScript :=
  [ .stop, .world (.chain (.evm (.reorganise 0))), .world (.chain (.evm (.extend ⟨[9], []⟩))) ]

def deployProbeKey : ActionKey := .evm .evmCompatibilityCheck .deployCompatibilityProbe

def deployerKey : ActionKey := .evm .constAddressDeployer (.contract .constAddressDeployer)

end Sample

open Sample in
/-- The result at a pass that sends two transactions again, one after the other. -/
theorem recovery_follows_nonces_of_probe :
    ∃ (found last : DeployConfig Sample.platform) (file : Journal)
        (tx lowerTx : EvmTransaction),
      RunnerRuns Sample.platform True plannedStart found ∧
        found.here.disk = some file ∧ NonceOrdered file found.world.evm ∧
        PassRuns Sample.platform passSession "lcd" found file last ∧
        last.awaited = some probeKey ∧
        file.get probeKey = some (.evm tx) ∧
        file.get deployProbeKey = some (.evm lowerTx) ∧
        lowerTx.sender = tx.sender ∧ lowerTx.nonce < tx.nonce ∧
        (last.world.evm.Uses lowerTx.sender lowerTx.nonce ∨
          .evm lowerTx.raw ∈ last.world.handed.drop found.world.handed.length) := by
  obtain ⟨found, file, last, run, onDisk, pass, ordered, waits, lowerTx, isLower, tx, isTx,
      sender, nonce⟩ :=
    @replayPass_run (probeLaunch ++ reorganised)
      [.answer .prompt 8, .world .mine, .answer .prompt 19]
      (fun found file last =>
        NonceOrdered file found.world.evm ∧ last.awaited = some probeKey ∧
          ∃ lowerTx ∈ file.getEvm deployProbeKey, ∃ tx ∈ file.getEvm probeKey,
            lowerTx.sender = tx.sender ∧ lowerTx.nonce < tx.nonce)
      _ (by decide +kernel)
  have current := Journal.getEvm_eq_some.mp isTx
  have lower := Journal.getEvm_eq_some.mp isLower
  exact ⟨found, last, file, tx, lowerTx, run, onDisk, ordered, pass, waits, current, lower,
    sender, nonce,
    recovery_follows_nonces run plannedStart_planned onDisk ordered pass waits current
      (mem_history_of_get lower) sender nonce⟩

open Sample in
/--
Keys are not in the order of nonces in general.  The deployer contract comes
first by its key and last by its nonce.  After a reorganisation the pass waits
for it while the transactions of the probe are neither on the chain nor sent.
-/
theorem recovery_waits_out_of_order : ∃ (found last : DeployConfig Sample.platform) (file : Journal)
        (tx lowerTx : EvmTransaction),
      RunnerRuns Sample.platform True plannedStart found ∧ found.here.disk = some file ∧
        PassRuns Sample.platform passSession "lcd" found file last ∧
        last.awaited = some deployerKey ∧
        file.get deployerKey = some (.evm tx) ∧
        file.get deployProbeKey = some (.evm lowerTx) ∧
        lowerTx.sender = tx.sender ∧ lowerTx.nonce < tx.nonce ∧
        ¬ last.world.evm.Uses lowerTx.sender lowerTx.nonce ∧
        .evm lowerTx.raw ∉ last.world.handed.drop found.world.handed.length := by
  obtain ⟨found, file, last, run, onDisk, pass, waits, lowerTx, isLower, tx, isTx,
      sender, nonce, unused, unsent⟩ :=
    @replayPass_run (deployerLaunch ++ reorganised) [.answer .prompt 10] (fun found file last =>
        last.awaited = some deployerKey ∧
          ∃ lowerTx ∈ file.getEvm deployProbeKey, ∃ tx ∈ file.getEvm deployerKey,
            lowerTx.sender = tx.sender ∧ lowerTx.nonce < tx.nonce ∧
              ¬ last.world.evm.Uses lowerTx.sender lowerTx.nonce ∧
              .evm lowerTx.raw ∉ last.world.handed.drop found.world.handed.length)
      _ (by decide +kernel)
  exact ⟨found, last, file, tx, lowerTx, run, onDisk, pass, waits,
    Journal.getEvm_eq_some.mp isTx, Journal.getEvm_eq_some.mp isLower, sender, nonce,
    unused, unsent⟩

end Axe.Hardened

import Axe.HardenedWaits
import Axe.ProgramLog
import Axe.SampleNode

namespace Axe.Hardened

/-!
# What a resumed EVM transaction proves

A resumed transaction returns a receipt or an error, whatever the node answers in
between.  The log of a call has every question with its answer.  A returned
receipt belongs to a recorded attempt, and the log ends with the answers that
made it deep enough; bytes are sent only after the node was asked for the nonce
of the account and for the receipt of every competing attempt.
-/

/-- A call with its reply. -/
def asked (op : Call) (reply : op.Reply) : Exchange deployInterface := ⟨op, reply⟩

/-- The call sends nothing to the chain. -/
def Silent (op : Call) : Prop := ∀ raw, op ≠ .sendRawTransaction raw

/-- The log ends with the answers that made a receipt deep enough. -/
def EndsSettled (policy : EvmConfirmationPolicy) (receipt : Receipt)
    (log : List (Exchange deployInterface)) : Prop :=
  ∃ number target head block journal earlier, receipt.blockNumber = some number ∧
      requiredHeight policy number = .ok target ∧ target ≤ head.number ∧
      receipt.blockHash = some block.hash ∧
      log = earlier ++ [ asked (.blockByNumber policy.blockTag) (some (some head)),
            asked (.blockByNumber (.number number)) (some (some block)),
            asked .currentJournal journal,
            asked
              (.commit (journal.confirm (.evm receipt.transactionHash) (.evm receipt)))
              WriteOutcome.ok ]

/-- A journal with the transaction under the key was written. -/
def EnteredIn (log : List (Exchange deployInterface)) (key : ActionKey)
    (tx : EvmTransaction) : Prop :=
  ∃ journal, asked (.commit journal) WriteOutcome.ok ∈ log ∧ journal.get key = some (.evm tx)

section Parts

variable {lib : Platform} {honest : Prop} {here here' : Station}
variable {world world' : Chains lib × List (Exchange deployInterface)}

theorem silent_of_plain (op : Call) (plain : op.plain = true) : Silent op := by
  rintro raw rfl
  cases plain

theorem currentJournal_ok {journal : Journal}
    (executes : Executes (deployMachine lib honest).logged currentJournal here world
        (.ok journal) here' world') :
    journal = here.memory ∧ here = here' ∧
      world'.2 = world.2 ++ [asked .currentJournal journal] := by
  obtain ⟨_, allowed, same, grown⟩ := Executes.perform_ok executes
  exact ⟨allowed, same.symm, grown⟩

theorem attemptValue_ok {Value : Type} {checked : Except String Value} {value : Value}
    (executes : Executes (deployMachine lib honest).logged (attemptValue checked) here world
        (.ok value) here' world') :
    checked = .ok value ∧ here = here' ∧ world = world' := by
  cases checked with
  | error message => cases executes
  | ok found =>
    cases executes
    exact ⟨rfl, rfl, rfl⟩

theorem writeJournal_ok {journal : Journal} {value : Unit}
    (executes : Executes (deployMachine lib honest).logged (writeJournal journal) here world
        (.ok value) here' world') :
    world'.2 = world.2 ++ [asked (.commit journal) WriteOutcome.ok] := by
  obtain ⟨outcome, middle, between, writes, rest⟩ := Executes.bind_ok executes
  obtain ⟨_, _, _, grown⟩ := Executes.perform_ok writes
  cases outcome with
  | ok =>
    cases rest
    exact grown
  | failedBefore => cases rest
  | failedAfter => cases rest

variable {receipt : Receipt}

theorem canonical_ok
    (executes : Executes (deployMachine lib honest).logged (canonical receipt) here world
        (.ok true) here' world') :
    ∃ number block, receipt.blockNumber = some number ∧ receipt.blockHash = some block.hash ∧
        world'.2 = world.2 ++ [asked (.blockByNumber (.number number)) (some (some block))] := by
  obtain ⟨number, _, _, numbered, readsBlock⟩ := Executes.bind_ok executes
  obtain ⟨hasNumber, rfl, rfl⟩ := numbered.orFail_ok
  obtain ⟨found, _, _, answered, readsHash⟩ := Executes.bind_ok readsBlock
  obtain ⟨reply, unpacked, grown⟩ := Executes.require_ok answered
  obtain ⟨block, _, _, hasBlock, compares⟩ := Executes.bind_ok readsHash
  obtain ⟨rfl, rfl, rfl⟩ := hasBlock.orFail_ok
  have replied : reply = some (some block) := unpacked
  subst replied
  cases same : decide (some block.hash = receipt.blockHash) with
  | false =>
    rw [same] at compares
    cases compares
  | true =>
    rw [same] at compares
    cases compares
    exact ⟨number, block, hasNumber, (of_decide_eq_true same).symm, grown⟩

/-- The log shows the receipt that was found for a hash. -/
structure FoundReceipt (hash : Digest) (found : Option Receipt)
    (log : List (Exchange deployInterface)) : Prop where
  belongs : ∀ receipt, found = some receipt → receipt.transactionHash = hash
  missing : found = none → asked (.transactionReceipt hash) (some none) ∈ log

variable {found : Option Receipt}

theorem findReceipt_ok {hash : Digest}
    (executes : Executes (deployMachine lib honest).logged (findReceipt hash) here world
        (.ok found) here' world') :
    FoundReceipt hash found world'.2 := by
  obtain ⟨answer, _, _, answered, compares⟩ := Executes.bind_ok executes
  obtain ⟨reply, unpacked, grown⟩ := Executes.require_ok answered
  have replied : reply = some answer := unpacked
  subst replied
  cases answer with
  | none =>
    cases compares
    refine ⟨by simp, fun _ => ?_⟩
    rw [grown]
    exact List.mem_append_right _ (List.mem_singleton_self _)
  | some receipt =>
    obtain ⟨_, _, _, matched, returns⟩ := Executes.bind_ok compares
    obtain ⟨same, rfl, rfl⟩ := matched.ensure_ok
    cases returns
    refine ⟨?_, by simp⟩
    rintro other ⟨rfl⟩
    exact same

theorem attemptReceipt_ok {attempt : EvmTransaction}
    (executes : Executes (deployMachine lib honest).logged (attemptReceipt attempt) here world
        (.ok found) here' world') :
    FoundReceipt attempt.hash found world'.2 := by
  obtain ⟨journal, _, _, _, searches⟩ := Executes.bind_ok executes
  split at searches
  · rename_i receipt cached
    obtain ⟨_, _, _, matched, checks⟩ := Executes.bind_ok searches
    obtain ⟨same, rfl, rfl⟩ := matched.ensure_ok
    obtain ⟨stands, _, _, _, returns⟩ := Executes.bind_ok checks
    cases stands with
    | true =>
      cases returns
      refine ⟨?_, by simp⟩
      rintro other ⟨rfl⟩
      exact same
    | false => exact findReceipt_ok returns
  · exact findReceipt_ok searches

variable {attempts : List EvmTransaction}

theorem included_some
    (executes : Executes (deployMachine lib honest).logged (included attempts) here world
        (.ok (some receipt)) here' world') :
    ∃ attempt ∈ attempts, receipt.transactionHash = attempt.hash := by
  induction attempts generalizing here world with
  | nil => cases executes
  | cons attempt rest ih =>
    obtain ⟨found, _, _, first, later⟩ := Executes.bind_ok executes
    cases found with
    | some receipt =>
      cases later
      exact ⟨attempt, List.mem_cons_self, (attemptReceipt_ok first).belongs _ rfl⟩
    | none =>
      obtain ⟨other, listed, same⟩ := ih later
      exact ⟨other, List.mem_cons_of_mem _ listed, same⟩

theorem included_none
    (executes : Executes (deployMachine lib honest).logged (included attempts) here world
        (.ok none) here' world') :
    ∀ attempt ∈ attempts, asked (.transactionReceipt attempt.hash) (some none) ∈ world'.2 := by
  induction attempts generalizing here world with
  | nil => simp
  | cons attempt rest ih =>
    obtain ⟨found, _, _, first, later⟩ := Executes.bind_ok executes
    cases found with
    | some receipt => cases later
    | none =>
      have missing := (attemptReceipt_ok first).missing rfl
      obtain ⟨added, grown⟩ := later.log_grows
      rw [List.forall_mem_cons]
      refine ⟨?_, ih later⟩
      rw [grown]
      exact List.mem_append_left _ missing

variable {policy : EvmConfirmationPolicy} {final : Receipt}

theorem settleReceipt_ok {otherwise : Deploy Receipt}
    (executes : Executes (deployMachine lib honest).logged
        (settleReceipt policy receipt otherwise) here world (.ok final) here' world') :
    final = receipt ∧ EndsSettled policy receipt world'.2 ∨ ∃ middle between,
        Executes (deployMachine lib honest).logged otherwise middle between
          (.ok final) here' world' := by
  obtain ⟨number, _, _, numbered, readsTarget⟩ := Executes.bind_ok executes
  obtain ⟨hasNumber, rfl, rfl⟩ := numbered.orFail_ok
  obtain ⟨target, _, _, heights, readsHead⟩ := Executes.bind_ok readsTarget
  obtain ⟨required, rfl, rfl⟩ := attemptValue_ok heights
  obtain ⟨found, _, _, answered, readsNumber⟩ := Executes.bind_ok readsHead
  obtain ⟨reply, unpacked, headRead⟩ := Executes.require_ok answered
  obtain ⟨head, _, _, hasHead, compares⟩ := Executes.bind_ok readsNumber
  obtain ⟨rfl, rfl, rfl⟩ := hasHead.orFail_ok
  have replied : reply = some (some head) := unpacked
  subst replied
  split at compares
  · rename_i deep
    left
    obtain ⟨stands, _, _, stood, ensures⟩ := Executes.bind_ok compares
    obtain ⟨_, _, _, standing, confirms⟩ := Executes.bind_ok ensures
    obtain ⟨rfl, rfl, rfl⟩ := standing.ensure_ok
    obtain ⟨height, block, atHeight, sameHash, blockRead⟩ := canonical_ok stood
    cases atHeight.symm.trans hasNumber
    obtain ⟨_, _, _, confirmed, returns⟩ := Executes.bind_ok confirms
    obtain ⟨journal, _, _, journalRead, writes⟩ := Executes.bind_ok confirmed
    obtain ⟨_, _, readJournal⟩ := currentJournal_ok journalRead
    have written := writeJournal_ok writes
    cases returns
    rw [readJournal, blockRead, headRead] at written
    simp only [List.append_assoc, List.singleton_append] at written
    exact ⟨rfl, number, target, head, block, journal, _, hasNumber, required, deep, sameHash,
      written⟩
  · right
    exact ⟨_, _, compares⟩

variable {key : ActionKey}

theorem waitReceipt_ok {rounds : Nat}
    (executes : Executes (deployMachine lib honest).logged
        (waitReceipt key policy rounds receipt) here world (.ok final) here' world') :
    final.transactionHash = receipt.transactionHash ∧ EndsSettled policy final world'.2 := by
  induction rounds generalizing receipt here world with
  | zero =>
    rcases settleReceipt_ok executes with ⟨rfl, settled⟩ | ⟨_, _, failed⟩
    · exact ⟨rfl, settled⟩
    · cases failed
  | succ rounds ih =>
    rcases settleReceipt_ok executes with ⟨rfl, settled⟩ | ⟨_, _, asksAgain⟩
    · exact ⟨rfl, settled⟩
    · obtain ⟨_, _, _, _, reads⟩ := Executes.bind_ok asksAgain
      obtain ⟨found, _, _, _, checks⟩ := Executes.bind_ok reads
      obtain ⟨again, _, _, _, compares⟩ := Executes.bind_ok checks
      obtain ⟨_, _, _, matched, waits⟩ := Executes.bind_ok compares
      obtain ⟨same, _, _⟩ := matched.ensure_ok
      obtain ⟨kept, settled⟩ := ih waits
      exact ⟨kept.trans same, settled⟩

theorem waitConfirmed_ok
    (executes : Executes (deployMachine lib honest).logged
        (waitConfirmed key policy receipt) here world (.ok final) here' world') :
    final.transactionHash = receipt.transactionHash ∧ final.status = true ∧
      EndsSettled policy final world'.2 := by
  obtain ⟨rounds, _, _, _, waits⟩ := Executes.bind_ok executes
  obtain ⟨settled, _, _, waited, checks⟩ := Executes.bind_ok waits
  obtain ⟨kept, ends⟩ := waitReceipt_ok waited
  obtain ⟨_, _, _, succeeded, returns⟩ := Executes.bind_ok checks
  obtain ⟨good, rfl, rfl⟩ := succeeded.ensure_ok
  cases returns
  exact ⟨kept, good, ends⟩

theorem awaitInclusion_ok {rounds : Nat}
    (executes : Executes (deployMachine lib honest).logged
        (awaitInclusion key policy attempts rounds) here world (.ok final) here' world') :
    (∃ attempt ∈ attempts, final.transactionHash = attempt.hash) ∧
      final.status = true ∧ EndsSettled policy final world'.2 := by
  have settles : ∀ {receipt middle between},
        (∃ attempt ∈ attempts, receipt.transactionHash = attempt.hash) →
        Executes (deployMachine lib honest).logged
          (waitConfirmed key policy receipt) middle between (.ok final) here' world' →
        (∃ attempt ∈ attempts, final.transactionHash = attempt.hash) ∧
          final.status = true ∧ EndsSettled policy final world'.2 := by
    rintro receipt middle between ⟨attempt, listed, same⟩ waits
    obtain ⟨kept, good, ends⟩ := waitConfirmed_ok waits
    exact ⟨⟨attempt, listed, kept.trans same⟩, good, ends⟩
  induction rounds generalizing here world with
  | zero =>
    obtain ⟨found, _, _, searched, later⟩ := Executes.bind_ok executes
    cases found with
    | some receipt => exact settles (included_some searched) later
    | none => cases later
  | succ rounds ih =>
    obtain ⟨found, _, _, searched, later⟩ := Executes.bind_ok executes
    cases found with
    | some receipt => exact settles (included_some searched) later
    | none =>
      obtain ⟨_, _, _, _, again⟩ := Executes.bind_ok later
      exact ih again

variable {replacement : EvmTransaction}

theorem replaceAction_ok {value : Unit}
    (executes : Executes (deployMachine lib honest).logged
        (replaceAction key (.evm replacement)) here world (.ok value) here' world') :
    EnteredIn world'.2 key replacement := by
  obtain ⟨journal, _, _, _, writes⟩ := Executes.bind_ok executes
  split at writes
  · rename_i previous _
    refine ⟨journal.replace key previous (.evm replacement), ?_, Journal.get_replace_self _ _ _ _⟩
    rw [writeJournal_ok writes]
    exact List.mem_append_right _ (List.mem_singleton_self _)
  · obtain ⟨_, _, _, _, fails⟩ := Executes.bind_ok writes
    cases fails

theorem bumpEvm_ok {session : Session} {scope : Scope} {saved : EvmTransaction}
    (executes : Executes (deployMachine lib honest).logged
        (bumpEvm lib session scope key saved) here world
        (.ok replacement) here' world') :
    lib.keccak256 replacement.raw = replacement.hash ∧
      (replacement.intent = saved.intent ∧ replacement.sender = saved.sender ∧
        replacement.nonce = saved.nonce) ∧
      EnteredIn world'.2 key replacement := by
  obtain ⟨old, _, _, _, step⟩ := Executes.bind_ok executes
  obtain ⟨signer, _, _, _, step⟩ := Executes.bind_ok step
  obtain ⟨_, _, _, _, step⟩ := Executes.bind_ok step
  obtain ⟨gasPrice, _, _, _, step⟩ := Executes.bind_ok step
  obtain ⟨request, _, _, _, step⟩ := Executes.bind_ok step
  obtain ⟨envelope, _, _, _, step⟩ := Executes.bind_ok step
  obtain ⟨_, _, _, _, step⟩ := Executes.bind_ok step
  obtain ⟨journal, _, _, _, step⟩ := Executes.bind_ok step
  obtain ⟨_, _, _, _, step⟩ := Executes.bind_ok step
  obtain ⟨balance, _, _, _, step⟩ := Executes.bind_ok step
  obtain ⟨_, _, _, _, step⟩ := Executes.bind_ok step
  obtain ⟨approved, _, _, _, step⟩ := Executes.bind_ok step
  cases approved with
  | false => cases step
  | true =>
    obtain ⟨_, _, _, replaces, returns⟩ := Executes.bind_ok step
    have entered := replaceAction_ok replaces
    cases returns
    exact ⟨rfl, ⟨rfl, rfl, rfl⟩, entered⟩

end Parts

/-- Each time bytes are sent, the log up to there is as needed. -/
def SendsAfter (needs : List (Exchange deployInterface) → Bytes → Prop)
    (log : List (Exchange deployInterface)) : Prop :=
  ∀ earlier raw reply rest,
    log = earlier ++ asked (.sendRawTransaction raw) reply :: rest → needs earlier raw

section Sends

variable {needs : List (Exchange deployInterface) → Bytes → Prop}
variable {log added : List (Exchange deployInterface)}

theorem SendsAfter.silent (sends : SendsAfter needs log)
    (quiet : ∀ exchange ∈ added, Silent exchange.1) :
    SendsAfter needs (log ++ added) := by
  intro earlier raw reply rest split
  rcases List.append_eq_append_iff.mp split with ⟨middle, _, inside⟩ | ⟨middle, same, after⟩
  · -- the sending call would be one of the quiet ones
    have listed : asked (.sendRawTransaction raw) reply ∈ added := by
      rw [inside]
      exact List.mem_append_right _ List.mem_cons_self
    exact absurd rfl (quiet _ listed raw)
  · rcases middle with _ | ⟨exchange, middle⟩
    · have listed : asked (.sendRawTransaction raw) reply ∈ added := by
        rw [List.nil_append] at after
        rw [← after]
        exact List.mem_cons_self
      exact absurd rfl (quiet _ listed raw)
    · rw [List.cons_append, List.cons.injEq] at after
      apply sends earlier raw reply middle
      rw [same, after.1]

theorem SendsAfter.send {raw : Bytes} {reply : Option Digest} (sends : SendsAfter needs log)
    (ready : needs log raw) :
    SendsAfter needs (log ++ [asked (.sendRawTransaction raw) reply]) := by
  intro earlier other answer rest split
  rcases List.append_eq_append_iff.mp split with ⟨middle, same, inside⟩ | ⟨middle, same, after⟩
  · rcases middle with _ | ⟨exchange, middle⟩
    · rw [List.nil_append, List.cons.injEq] at inside
      rw [List.append_nil] at same
      cases inside.1
      rw [same]
      exact ready
    · have short := congrArg List.length inside
      simp at short
  · rcases middle with _ | ⟨exchange, middle⟩
    · rw [List.nil_append, List.cons.injEq] at after
      rw [List.append_nil] at same
      cases after.1
      rw [← same]
      exact ready
    · rw [List.cons_append, List.cons.injEq] at after
      apply sends earlier other answer middle
      rw [same, after.1]

variable {lib : Platform} {honest : Prop} {here here' : Station}
variable {world world' : Chains lib × List (Exchange deployInterface)} {Value Result : Type}

variable {program : Deploy Value}

theorem SendsAfter.only {result : Except Stop Value} (sends : SendsAfter needs world.2)
    (quiet : program.Only Silent)
    (executes : Executes (deployMachine lib honest).logged program here world result here' world') :
    SendsAfter needs world'.2 := by
  obtain ⟨added, grown, listed⟩ := executes.log_of_only quiet
  rw [grown]
  exact sends.silent listed

theorem SendsAfter.bind {later : Value → Deploy Result} {result : Except Stop Result}
    (sends : SendsAfter needs world.2) (quiet : program.Only Silent)
    (executes : Executes (deployMachine lib honest).logged (program.bind later)
        here world result here' world')
    (rest : ∀ value middle between, Executes (deployMachine lib honest).logged program
            here world (.ok value) middle between →
          SendsAfter needs between.2 →
          Executes (deployMachine lib honest).logged (later value)
              middle between result here' world' →
            SendsAfter needs world'.2) :
    SendsAfter needs world'.2 := by
  rcases executes.bind_cases with ⟨value, middle, between, first, second⟩ | ⟨error, rfl, first⟩
  · exact rest value middle between first (sends.only quiet first) second
  · exact sends.only quiet first

theorem SendsAfter.broadcast {key : ActionKey} {tx : EvmTransaction} {result : Except Stop Unit}
    (sends : SendsAfter needs world.2) (ready : ∀ added, needs (world.2 ++ added) tx.raw)
    (executes : Executes (deployMachine lib honest).logged (broadcastEvm key tx)
        here world result here' world') :
    SendsAfter needs world'.2 := by
  apply sends.bind (only_need silent_of_plain _ _ _ rfl) executes
  intro known middle between looked sends executes
  obtain ⟨added, grown⟩ := looked.log_grows
  cases known with
  | true =>
    cases executes
    exact sends
  | false =>
    rcases Executes.bind_cases executes with
      ⟨sent, _, _, first, second⟩ | ⟨error, _, first⟩
    · obtain ⟨_, _, _, written⟩ := Executes.perform_ok first
      refine SendsAfter.only ?_ ((Program.only_orFail _ _).bind fun _ =>
        Program.only_ensure _ _) second
      rw [written]
      apply sends.send
      rw [grown]
      exact ready added
    · cases first with
      | call _ _ _ rest => cases rest

end Sends

/-- What must stand in the log before the bytes of a transaction are sent. -/
structure ReadyToSend (lib : Platform) (key : ActionKey) (saved : EvmTransaction)
    (attempts : List EvmTransaction) (earlier : List (Exchange deployInterface))
    (raw : Bytes) : Prop where
  recorded : ∃ tx : EvmTransaction, raw = tx.raw ∧ lib.keccak256 raw = tx.hash ∧ (tx = saved ∨
          EnteredIn earlier key tx ∧ tx.sender = saved.sender ∧ tx.nonce = saved.nonce)
  nonce : ∃ count : U64,
      asked (.transactionCount saved.sender) (some count) ∈ earlier ∧ count ≤ saved.nonce
  missing : ∀ attempt ∈ attempts, asked (.transactionReceipt attempt.hash) (some none) ∈ earlier

/-- A receipt of a recorded attempt, or of a replacement entered during the call. -/
def OfAttempt (journal : Journal) (key : ActionKey) (saved : EvmTransaction)
    (log : List (Exchange deployInterface)) (receipt : Receipt) : Prop :=
  ∃ tx : EvmTransaction, receipt.transactionHash = tx.hash ∧
      tx.sender = saved.sender ∧ tx.nonce = saved.nonce ∧
      (.evm tx ∈ journal.past key ∨ tx = saved ∨ EnteredIn log key tx)

section Resume

variable {lib : Platform} {honest : Prop} {session : Session} {scope : Scope}
variable {key : ActionKey} {saved : EvmTransaction} {intent : Digest} {here here' : Station}
variable {world world' : Chains lib × List (Exchange deployInterface)}

theorem latestAttempts_ok {attempts latest : List EvmTransaction}
    (executes : Executes (deployMachine lib honest).logged
        (latestAttempts lib session scope key saved attempts) here world
        (.ok latest) here' world') :
    latest = attempts ∨ ∃ tx, latest = attempts ++ [tx] ∧ lib.keccak256 tx.raw = tx.hash ∧
          tx.sender = saved.sender ∧ tx.nonce = saved.nonce ∧ EnteredIn world'.2 key tx := by
  unfold latestAttempts at executes
  split at executes
  · right
    obtain ⟨tx, _, _, bumps, returns⟩ := Executes.bind_ok executes
    obtain ⟨hashed, ⟨_, sender, nonce⟩, entered⟩ := bumpEvm_ok bumps
    cases returns
    exact ⟨tx, rfl, hashed, sender, nonce, entered⟩
  · left
    cases executes
    rfl

theorem only_latestAttempts (attempts : List EvmTransaction) :
    (latestAttempts lib session scope key saved attempts).Only Silent := by
  unfold latestAttempts
  split
  · exact (only_bumpEvm _ _ silent_of_plain _ _ _).bind fun _ => trivial
  · trivial

theorem EnteredIn.append {log : List (Exchange deployInterface)} {tx : EvmTransaction}
    (entered : EnteredIn log key tx) (added : List (Exchange deployInterface)) :
    EnteredIn (log ++ added) key tx := by
  obtain ⟨journal, listed, current⟩ := entered
  exact ⟨journal, List.mem_append_left _ listed, current⟩

theorem resumeEvm_ok {receipt : Receipt}
    (executes : Executes (deployMachine lib honest).logged
        (resumeEvm lib session scope saved intent key) here world
        (.ok receipt) here' world') :
    OfAttempt here.memory key saved world'.2 receipt ∧ receipt.status = true ∧
      EndsSettled here.memory.evmConfirmations receipt world'.2 := by
  obtain ⟨_, _, _, ensured, reads⟩ := Executes.bind_ok executes
  obtain ⟨_, rfl, rfl⟩ := ensured.ensure_ok
  obtain ⟨journal, _, _, journalRead, searches⟩ := Executes.bind_ok reads
  obtain ⟨rfl, rfl, _⟩ := currentJournal_ok journalRead
  obtain ⟨found, _, _, searched, continues⟩ := Executes.bind_ok searches
  cases found with
  | some first =>
    obtain ⟨attempt, listed, same⟩ := included_some searched
    obtain ⟨kept, good, settled⟩ := waitConfirmed_ok continues
    obtain ⟨source, sender, nonce⟩ := mem_competingAttempts_iff.mp listed
    refine ⟨⟨attempt, kept.trans same, sender, nonce, ?_⟩, good, settled⟩
    rcases source with past | current
    · exact .inl past
    · exact .inr (.inl current)
  | none =>
    obtain ⟨count, _, _, _, checks⟩ := Executes.bind_ok continues
    obtain ⟨_, _, _, _, prepares⟩ := Executes.bind_ok checks
    obtain ⟨attempts, _, _, prepared, selects⟩ := Executes.bind_ok prepares
    obtain ⟨latest, _, _, _, broadcasts⟩ := Executes.bind_ok selects
    obtain ⟨_, _, _, _, waits⟩ := Executes.bind_ok broadcasts
    obtain ⟨rounds, _, _, _, loops⟩ := Executes.bind_ok waits
    obtain ⟨⟨attempt, listed, same⟩, good, settled⟩ := awaitInclusion_ok loops
    refine ⟨?_, good, settled⟩
    have recorded : attempt ∈ competingAttempts here.memory key saved →
          OfAttempt here.memory key saved world'.2 receipt := by
      intro listed
      obtain ⟨source, sender, nonce⟩ := mem_competingAttempts_iff.mp listed
      refine ⟨attempt, same, sender, nonce, ?_⟩
      rcases source with past | current
      · exact .inl past
      · exact .inr (.inl current)
    rcases latestAttempts_ok prepared with rfl | ⟨tx, rfl, _, sender, nonce, entered⟩
    · exact recorded listed
    · rcases List.mem_append.mp listed with old | new
      · exact recorded old
      · rw [List.mem_singleton] at new
        subst new
        obtain ⟨added, grown⟩ := selects.log_grows
        refine ⟨attempt, same, sender, nonce, .inr (.inr ?_)⟩
        rw [grown]
        exact entered.append added

theorem resumeEvm_sends {result : Except Stop Receipt} (fresh : world.2 = [])
    (executes : Executes (deployMachine lib honest).logged
        (resumeEvm lib session scope saved intent key) here world result here' world') :
    SendsAfter
      (ReadyToSend lib key saved (competingAttempts here.memory key saved)) world'.2 := by
  have sends : SendsAfter (ReadyToSend lib key saved (competingAttempts here.memory key saved))
        world.2 := by
    intro earlier raw reply rest split
    rw [fresh] at split
    cases earlier <;> cases split
  apply sends.bind (Program.only_ensure _ _) executes
  intro _ _ _ ensured sends executes
  obtain ⟨⟨_, hashed⟩, rfl, rfl⟩ := ensured.ensure_ok
  apply sends.bind (only_currentJournal silent_of_plain) executes
  intro journal _ _ journalRead sends executes
  obtain ⟨rfl, rfl, _⟩ := currentJournal_ok journalRead
  apply sends.bind (only_included silent_of_plain _) executes
  intro found _ searched looked sends executes
  cases found with
  | some receipt => exact sends.only (only_waitConfirmed silent_of_plain _ _ _) executes
  | none =>
    have missing := included_none looked
    apply sends.bind (only_need silent_of_plain _ _ _ rfl) executes
    intro count _ counted countRead sends executes
    obtain ⟨reply, unpacked, countLogged⟩ := Executes.require_ok countRead
    have replied : reply = some count := unpacked
    subst replied
    apply sends.bind (Program.only_ensure _ _) executes
    intro _ _ _ checked sends executes
    obtain ⟨low, rfl, rfl⟩ := checked.ensure_ok
    apply sends.bind (only_latestAttempts _) executes
    intro attempts _ prepared prepares sends executes
    obtain ⟨added, preparedLog⟩ := prepares.log_grows
    -- what was read before the attempts were prepared stays in the log
    have ready : ∀ tx more, (lib.keccak256 tx.raw = tx.hash) → (tx = saved ∨
            EnteredIn prepared.2 key tx ∧ tx.sender = saved.sender ∧ tx.nonce = saved.nonce) →
          ReadyToSend lib key saved (competingAttempts here.memory key saved)
            (prepared.2 ++ more) tx.raw := by
      intro tx more txHashed source
      refine ⟨⟨tx, rfl, txHashed, ?_⟩, ⟨count, ?_, low⟩, ?_⟩
      · rcases source with same | ⟨entered, rest⟩
        · exact .inl same
        · exact .inr ⟨entered.append more, rest⟩
      · rw [preparedLog, countLogged]
        simp [asked]
      · intro attempt listed
        rw [preparedLog, countLogged]
        simp [missing attempt listed]
    apply sends.bind (Program.only_orFail _ _) executes
    intro latest _ _ selected sends executes
    obtain ⟨last, rfl, rfl⟩ := selected.orFail_ok
    have sendable : lib.keccak256 latest.raw = latest.hash ∧ (latest = saved ∨
            EnteredIn prepared.2 key latest ∧ latest.sender = saved.sender ∧
              latest.nonce = saved.nonce) := by
      rcases latestAttempts_ok prepares with rfl | ⟨tx, rfl, txHashed, sender, nonce, entered⟩
      · rw [competingAttempts_getLast] at last
        cases last
        exact ⟨hashed, .inl rfl⟩
      · rw [List.getLast?_concat] at last
        cases last
        exact ⟨txHashed, .inr ⟨entered, sender, nonce⟩⟩
    rcases Executes.bind_cases executes with
      ⟨_, _, _, broadcasts, executes⟩ | ⟨_, rfl, broadcasts⟩
    · have sends := sends.broadcast (fun more => ready latest more sendable.1 sendable.2) broadcasts
      apply sends.bind (only_ask silent_of_plain _ rfl) executes
      intro rounds _ _ _ sends executes
      exact sends.only
        (only_awaitInclusion silent_of_plain _ _ _ (fun _ never => by cases never)) executes
    · exact sends.broadcast (fun more => ready latest more sendable.1 sendable.2) broadcasts

end Resume

/--
A resumed EVM transaction that returns a receipt returns that of a recorded
attempt with the same sender and nonce, or of a replacement entered during the
call; the receipt is successful, and the last answers of the node were a head at
the required height and a block at the height of the receipt with its hash.
Whatever the call returns, it sends only recorded bytes, after the node reported
a nonce that is not above the recorded one and no receipt of any attempt.
-/
theorem resume_is_sound
    (lib : Platform)
    (honest : Prop)
    (session : Session)
    (scope : Scope)
    (saved : EvmTransaction)
    (intent : Digest)
    (key : ActionKey)
    (here here' : Station)
    (chains chains' : Chains lib)
    (log : List (Exchange deployInterface))
    (result : Except Stop Receipt)
    (executes : Executes (deployMachine lib honest).logged
      (resumeEvm lib session scope saved intent key)
      here (chains, []) result here' (chains', log)) :
    (∀ receipt, result = .ok receipt →
        OfAttempt here.memory key saved log receipt ∧ receipt.status = true ∧
          EndsSettled here.memory.evmConfirmations receipt log) ∧
      SendsAfter
        (ReadyToSend lib key saved (competingAttempts here.memory key saved)) log := by
  constructor
  · rintro receipt rfl
    exact resumeEvm_ok executes
  · exact resumeEvm_sends rfl executes

namespace Sample

def recordedCall : EvmTransaction where
  intent := []
  raw := [1]
  hash := [1]
  sender := 5
  nonce := 0
  gasCost := 7

def callReceipt : Receipt where
  transactionHash := [1]
  blockNumber := some 3
  blockHash := some [9]
  status := true
  contractAddress := none

def settledLog : List (Exchange deployInterface) :=
  [ asked .currentJournal (Journal.empty []), asked .currentJournal (Journal.empty []),
    asked (.transactionReceipt [1]) (some (some callReceipt)),
    asked .patience (0 : Nat),
    asked (.blockByNumber .latest) (some (some ⟨3, [8]⟩)),
    asked (.blockByNumber (.number 3)) (some (some ⟨3, [9]⟩)),
    asked .currentJournal (Journal.empty []),
    asked (.commit ((Journal.empty []).confirm (.evm [1]) (.evm callReceipt)))
      WriteOutcome.ok ]

end Sample

/-- The receipt of a transaction in the latest block is settled. -/
theorem resume_is_sound_in_the_latest_block : ∃ here' chains',
      Executes (deployMachine Sample.platform False).logged
          (resumeEvm Sample.platform ⟨Sample.plan, {}⟩ ⟨.operators, "k"⟩ Sample.recordedCall []
            (.evm .operators (.contract .operators)))
          Sample.start.here (Sample.chains, []) (.ok Sample.callReceipt)
          here' (chains', Sample.settledLog) ∧
        EndsSettled (.confirmations 1) Sample.callReceipt Sample.settledLog := by
  have executes : ∃ here' chains', Executes (deployMachine Sample.platform False).logged
          (resumeEvm Sample.platform ⟨Sample.plan, {}⟩ ⟨.operators, "k"⟩ Sample.recordedCall []
            (.evm .operators (.contract .operators)))
          Sample.start.here (Sample.chains, []) (.ok Sample.callReceipt)
          here' (chains', Sample.settledLog) :=
    ⟨_, _, .call (Journal.empty []) .refl rfl (.call (Journal.empty []) .refl rfl
          (.call (some (some Sample.callReceipt)) .refl (fun never => never.elim)
            (.call (0 : Nat) .refl trivial
              (.call (some (some ⟨3, [8]⟩)) .refl (fun never => never.elim)
                (.call (some (some ⟨3, [9]⟩)) .refl (fun never => never.elim)
                  (.call (Journal.empty []) .refl rfl
                    (.call WriteOutcome.ok .refl trivial .done)))))))⟩
  obtain ⟨here', chains', executes⟩ := executes
  have sound := resume_is_sound Sample.platform False ⟨Sample.plan, {}⟩ ⟨.operators, "k"⟩
      Sample.recordedCall [] (.evm .operators (.contract .operators)) Sample.start.here here'
      Sample.chains chains' Sample.settledLog (.ok Sample.callReceipt) executes
  exact ⟨here', chains', executes, (sound.1 _ rfl).2.2⟩

end Axe.Hardened

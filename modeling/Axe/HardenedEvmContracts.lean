import Axe.HardenedContracts

namespace Axe.Hardened

/-!
# Contracts of the EVM programs

A receipt is accepted only if some block bears it out, and a receipt that was
waited for until its block was finalized tells the final outcome.  Sending
enters one new transaction, a fee bump replaces one, and both then resume; only
bytes that are in the journal file go to a node.
-/

section Receipts

variable {lib : Platform}

/-- The block of the receipt is in the chain. -/
def StandsOn (chain : EvmChain lib) (receipt : Receipt) : Prop :=
  ∃ number block, receipt.blockNumber = some number ∧ chain.blocks[number]? = some block ∧
      receipt.blockHash = some (lib.blockHash block)

/-- The receipt is that of a final transaction. -/
def FinalReceipt (world : Chains lib) (receipt : Receipt) : Prop :=
  ∃ envelope, world.evm.Finalizes envelope receipt.status ∧
      lib.txHash envelope = receipt.transactionHash

theorem ReceiptTrue.sound {chain : EvmChain lib} {receipt : Receipt}
    (truth : ReceiptTrue chain receipt) :
    ReceiptSound lib receipt := by
  obtain ⟨_, block, envelope, _, _, hash, listed, hashed⟩ := truth
  exact ⟨block, envelope, hash, listed, hashed⟩

theorem StandsOn.final {world : Chains lib} {receipt : Receipt} {number : Nat}
    (stands : StandsOn world.evm receipt) (sound : ReceiptSound lib receipt)
    (numbered : receipt.blockNumber = some number) (deep : number < world.evm.finalized) :
    FinalReceipt world receipt := by
  obtain ⟨height, block, heightEq, placed, hash⟩ := stands
  obtain ⟨named, envelope, namedHash, listed, hashed⟩ := sound
  have sameHeight : height = number := Option.some.inj (heightEq.symm.trans numbered)
  have sameBlock : block = named :=
    lib.blockHash_injective (Option.some.inj (hash.symm.trans namedHash))
  subst sameHeight sameBlock
  refine ⟨envelope, ?_, hashed⟩
  have taken : block ∈ world.evm.blocks.take world.evm.finalized := by
    refine List.mem_of_getElem? (i := height) ?_
    rw [List.getElem?_take_of_lt deep]
    exact placed
  exact List.mem_flatMap.mpr ⟨block, taken, listed⟩

variable {world later : Chains lib}

theorem Evolves.finalized_le (evolved : Evolves world later) :
    world.evm.finalized ≤ later.evm.finalized := by
  induction evolved with
  | refl => exact le_rfl
  | tail _ step ih =>
    obtain ⟨_, ⟨⟨_, moved⟩, _⟩ | ⟨_, unchanged⟩⟩ := step.cases
    · exact ih.trans (EvmChain.move_take_finalized moved).1
    · exact unchanged ▸ ih

theorem FinalReceipt.evolves {receipt : Receipt} (final : FinalReceipt world receipt)
    (evolved : Evolves world later) :
    FinalReceipt later receipt := by
  obtain ⟨envelope, finalizes, hashed⟩ := final
  exact ⟨envelope, Evolves.finalizes evolved finalizes, hashed⟩

end Receipts

section Waiting

variable {lib : Platform} {honest : Prop} {plan : Plan} {policy : Policy}
variable {here : Station} {world : Chains lib}

theorem keeps_canonical (receipt : Receipt) : Keeps lib honest plan policy (canonical receipt)
      (fun stands after moved => after = here ∧ Evolves world moved ∧
        (honest → stands = true → StandsOn moved.evm receipt))
      (fun _ _ _ => True) here world := by
  refine Meets.orFail_bind (fun number numbered => ?_) (fun _ => trivial)
  refine keeps_need (fun _ _ _ => rfl) ?_ (fun _ _ => trivial)
  intro moved evolved reply allowed found unpacked
  refine Meets.orFail_bind (fun header shown => ?_) (fun _ => trivial)
  refine ⟨rfl, evolved, fun trusted stands => ?_⟩
  subst shown
  obtain ⟨block, placed, headed⟩ := allowed trusted header unpacked
  have hash := of_decide_eq_true stands
  rw [headed] at hash
  exact ⟨number, block, numbered, placed, hash.symm⟩

theorem keeps_findReceipt (hash : Digest) : Keeps lib honest plan policy (findReceipt hash)
      (fun found after _ => after = here ∧ ∀ receipt, found = some receipt →
          receipt.transactionHash = hash ∧ (honest → ReceiptSound lib receipt))
      (fun _ _ _ => True) here world := by
  refine keeps_need (fun _ _ _ => rfl) ?_ (fun _ _ => trivial)
  intro moved evolved reply allowed found unpacked
  cases found with
  | none => exact ⟨rfl, fun _ absent => by cases absent⟩
  | some receipt =>
    refine Meets.ensure_bind (fun hashed => ?_) (fun _ => trivial)
    refine ⟨rfl, fun shown same => ?_⟩
    cases same
    exact ⟨hashed, fun trusted => (allowed trusted receipt unpacked).sound⟩

theorem keeps_attemptReceipt (sound : honest → here.memory.Sound lib) (attempt : EvmTransaction) :
    Keeps lib honest plan policy (attemptReceipt attempt)
      (fun found after _ => after = here ∧ ∀ receipt, found = some receipt →
          receipt.transactionHash = attempt.hash ∧ (honest → ReceiptSound lib receipt))
      (fun _ _ _ => True) here world := by
  refine keeps_currentJournal fun moved _ => ?_
  split
  · rename_i receipt cached
    refine Meets.ensure_bind (fun hashed => ?_) (fun _ => trivial)
    refine (keeps_canonical receipt).andThen (fun _ _ _ _ => trivial) ?_
    intro stands after later checked
    obtain ⟨rfl, _⟩ := checked
    split
    · refine ⟨rfl, fun shown same => ?_⟩
      cases same
      exact ⟨hashed, fun trusted => sound trusted _ _ cached⟩
    · exact keeps_findReceipt attempt.hash
  · exact keeps_findReceipt attempt.hash

theorem keeps_included (sound : honest → here.memory.Sound lib) (attempts : List EvmTransaction) :
    Keeps lib honest plan policy (included attempts)
      (fun found after _ => after = here ∧ ∀ receipt, found = some receipt →
          (∃ attempt ∈ attempts, receipt.transactionHash = attempt.hash) ∧
            (honest → ReceiptSound lib receipt))
      (fun _ _ _ => True) here world := by
  refine Meets.firstSome (fun attempt member now moved unchanged => ?_) rfl
  subst unchanged
  refine (keeps_attemptReceipt sound attempt).mono ?_
  intro found after later shown
  refine ⟨shown.1, fun receipt same => ?_⟩
  obtain ⟨hashed, receiptSound⟩ := shown.2 receipt same
  exact ⟨⟨attempt, member, hashed⟩, receiptSound⟩

variable {depth : EvmConfirmationPolicy} {receipt : Receipt}

theorem keeps_settleReceipt {otherwise : Deploy Receipt}
    {onDone : Receipt → Station → Chains lib → Prop} (synced : here.Synced)
    (sound : honest → ReceiptSound lib receipt)
    (done : ∀ after moved, here.SameCore after →
        (depth = .finalized → honest → FinalReceipt moved receipt) → onDone receipt after moved)
    (rest : ∀ moved, Keeps lib honest plan policy otherwise onDone (fun _ _ _ => True) here moved) :
    Keeps lib honest plan policy (settleReceipt depth receipt otherwise)
      onDone (fun _ _ _ => True) here world := by
  refine Meets.orFail_bind (fun number numbered => ?_) (fun _ => trivial)
  refine keeps_attemptValue (fun target targeted => ?_) (fun _ => trivial)
  refine keeps_need (fun _ _ _ => rfl) ?_ (fun _ _ => trivial)
  intro moved _ reply allowed found unpacked
  refine Meets.orFail_bind (fun head shown => ?_) (fun _ => trivial)
  subst shown
  split
  · rename_i deep
    refine (keeps_canonical receipt).andThen (fun _ _ _ _ => trivial) ?_
    intro stands after later checked
    obtain ⟨rfl, evolved, standing⟩ := checked
    refine Meets.ensure_bind (fun stood => ?_) (fun _ => trivial)
    -- The head was read first, so the block was finalized when it was checked.
    have final : depth = .finalized → honest → FinalReceipt later receipt := by
      intro isFinalized trusted
      subst isFinalized
      have below : head.number < moved.evm.finalized := allowed trusted head unpacked
      have reached : number ≤ head.number := by
        simp only [requiredHeight] at targeted
        split at targeted
        · cases targeted
          exact deep
        · cases targeted
      exact (standing trusted stood).final (sound trusted) numbered
        (reached.trans_lt (below.trans_le evolved.finalized_le))
    refine Meets.bind ?_
    refine keeps_confirmResult synced ?_ ?_ (fun _ _ _ _ _ => trivial)
    · intro last _
      exact .confirmEvm receipt sound
    · intro last world' lastEvolved same
      exact done last world' same
        fun isFinalized trusted => (final isFinalized trusted).evolves lastEvolved
  · exact rest moved

variable {key : ActionKey}

theorem keeps_waitReceipt {hash : Digest} (synced : here.Synced) (rounds : Nat)
    (hashed : receipt.transactionHash = hash) (sound : honest → ReceiptSound lib receipt) :
    Keeps lib honest plan policy (waitReceipt key depth rounds receipt)
      (fun result after moved => here.SameCore after ∧ result.transactionHash = hash ∧
        (depth = .finalized → honest → FinalReceipt moved result))
      (fun _ _ _ => True) here world := by
  induction rounds generalizing world receipt with
  | zero =>
    exact keeps_settleReceipt synced sound
      (fun _ _ same final => ⟨same, hashed, final⟩) (fun _ => trivial)
  | succ rounds ih =>
    refine keeps_settleReceipt synced sound
      (fun _ _ same final => ⟨same, hashed, final⟩) (fun moved => ?_)
    refine keeps_ask (fun _ _ _ => rfl) fun _ _ _ => ?_
    refine keeps_need (fun _ _ _ => rfl) ?_ (fun _ _ => trivial)
    intro later _ reply allowed found unpacked
    refine Meets.orFail_bind (fun again shown => ?_) (fun _ => trivial)
    subst shown
    refine Meets.ensure_bind (fun sameHash => ?_) (fun _ => trivial)
    exact ih (sameHash.trans hashed)
      fun trusted => (allowed trusted again unpacked).sound

theorem keeps_waitConfirmed (synced : here.Synced) (sound : honest → ReceiptSound lib receipt) :
    Keeps lib honest plan policy (waitConfirmed key depth receipt)
      (fun _ after _ => here.SameCore after)
      (fun _ _ _ => True) here world := by
  refine keeps_ask (fun _ _ _ => rfl) fun _ _ rounds => ?_
  refine (keeps_waitReceipt synced rounds rfl sound).andThen (fun _ _ _ _ => trivial) ?_
  intro result after _ waited
  exact Meets.ensure_bind (fun _ => waited.1) (fun _ => trivial)

theorem keeps_awaitInclusion {attempts : List EvmTransaction} (synced : here.Synced)
    (sound : honest → here.memory.Sound lib) (rounds : Nat) :
    Keeps lib honest plan policy (awaitInclusion key depth attempts rounds)
      (fun _ after _ => here.SameCore after)
      (fun _ _ _ => True) here world := by
  induction rounds generalizing world with
  | zero =>
    refine (keeps_included sound attempts).andThen (fun _ _ _ _ => trivial) ?_
    intro found after _ shown
    obtain ⟨rfl, told⟩ := shown
    cases found with
    | none => trivial
    | some receipt => exact keeps_waitConfirmed synced (told receipt rfl).2
  | succ rounds ih =>
    refine (keeps_included sound attempts).andThen (fun _ _ _ _ => trivial) ?_
    intro found after _ shown
    obtain ⟨rfl, told⟩ := shown
    cases found with
    | none => exact keeps_ask (fun _ _ _ => rfl) fun _ _ _ => ih
    | some receipt => exact keeps_waitConfirmed synced (told receipt rfl).2

theorem keeps_broadcastEvm {saved : EvmTransaction} (synced : here.Synced)
    (recorded : .evm saved ∈ here.memory.history key)
    (hash : saved.hash = lib.keccak256 saved.raw) :
    Keeps lib honest plan policy (broadcastEvm key saved)
      (fun _ after _ => after = here) (fun _ _ _ => True) here world := by
  refine keeps_need (fun _ _ _ => rfl) ?_ (fun _ _ => trivial)
  intro _ _ _ _ known _
  split
  · rfl
  · refine Meets.perform_bind fun moved _ sent _ => ?_
    refine ⟨.handEvm key saved synced recorded hash, ?_⟩
    refine Meets.orFail_bind (fun _ _ => ?_) (fun _ => trivial)
    exact Meets.ensure (fun _ => rfl) (fun _ => trivial)

end Waiting

section Attempts

variable {lib : Platform}

theorem competingAttempts_getLast (journal : Journal) (key : ActionKey) (saved : EvmTransaction) :
    (competingAttempts journal key saved).getLast? = some saved := by
  simp [competingAttempts, List.filterMap_append]

variable {key : ActionKey} {saved : EvmTransaction}

theorem mem_competingAttempts_iff {journal : Journal} {tx : EvmTransaction} :
    tx ∈ competingAttempts journal key saved ↔ (.evm tx ∈ journal.past key ∨ tx = saved) ∧
        tx.sender = saved.sender ∧ tx.nonce = saved.nonce := by
  simp only [competingAttempts, List.mem_filterMap, List.mem_append, List.mem_singleton]
  constructor
  · rintro ⟨attempt, listed, kept⟩
    cases attempt with
    | cosmos other => cases kept
    | evm other =>
      simp only [Option.ite_none_right_eq_some, Option.some.injEq] at kept
      obtain ⟨same, rfl⟩ := kept
      simpa using And.intro listed same
  · rintro ⟨listed, same⟩
    exact ⟨.evm tx, by simpa using listed, by simp [same]⟩

variable {attempt : EvmTransaction}

theorem mem_competingAttempts {journal : Journal}
    (member : attempt ∈ competingAttempts journal key saved) :
    attempt.sender = saved.sender ∧ attempt.nonce = saved.nonce :=
  (mem_competingAttempts_iff.mp member).2

theorem replacementRequest_nonce {old : Envelope} {sender : Address} {gasPrice : U128}
    {request : TransactionRequest}
    (requested : replacementRequest old sender gasPrice = .ok request) :
    request.nonce = some old.nonce := by
  unfold replacementRequest at requested
  simp only at requested
  split at requested
  · split at requested
    · cases requested
      rfl
    · split at requested
      · split at requested
        · cases requested
          rfl
        · cases requested
      · cases requested
  · cases requested

theorem validateAction_ok (valid : validateAction lib key saved = .ok ()) :
    key.step ≠ .axelarGateway ∧ ∃ tx, lib.txHash tx = saved.hash ∧ tx.nonce = saved.nonce ∧
        lib.recoverAddress tx = some saved.sender := by
  unfold validateAction at valid
  split at valid
  · cases valid
  · rename_i unpinned
    split at valid
    · cases valid
    · rename_i tx _
      split at valid
      · rename_i identity
        exact ⟨unpinned, tx, identity⟩
      · cases valid

theorem validateActions_ok {attempts : List EvmTransaction}
    (valid : validateActions lib key attempts = .ok ()) :
    ∀ attempt ∈ attempts, validateAction lib key attempt = .ok () := by
  induction attempts with
  | nil =>
    intro attempt member
    cases member
  | cons first rest ih =>
    simp only [validateActions] at valid
    split at valid
    · cases valid
    · rename_i firstValid
      intro attempt member
      rcases List.mem_cons.mp member with isFirst | inRest
      · exact isFirst ▸ firstValid
      · exact ih valid attempt inRest

theorem FinalReceipt.failedFinally {world : Chains lib} {receipt : Receipt}
    (final : FinalReceipt world receipt) (failed : receipt.status = false)
    (hashed : receipt.transactionHash = attempt.hash)
    (valid : validateAction lib key attempt = .ok ())
    (same : attempt.sender = saved.sender ∧ attempt.nonce = saved.nonce) :
    world.evm.FailedFinally saved.sender saved.nonce := by
  obtain ⟨envelope, finalizes, envelopeHash⟩ := final
  obtain ⟨_, tx, txHash, txNonce, txSender⟩ := validateAction_ok valid
  have isTx : envelope = tx := lib.txHash_injective (envelopeHash.trans (hashed.trans txHash.symm))
  subst isTx
  refine ⟨envelope, txSender.trans (congrArg some same.1), txNonce.trans same.2, ?_⟩
  exact failed ▸ finalizes

end Attempts

section Programs

variable {lib : Platform} {honest : Prop} {policy : Policy} {session : Session}
variable {here : Station} {world : Chains lib} {key : ActionKey}

theorem mem_history_of_get {journal : Journal} {transaction : Transaction}
    (current : journal.get key = some transaction) :
    transaction ∈ journal.history key := by
  simp [Journal.history, Journal.ledger, Ledger.history, current]

variable {scope : Scope} {saved : EvmTransaction}

theorem keeps_bumpEvm (synced : here.Synced) (current : here.memory.get key = some (.evm saved)) :
    Keeps lib honest session.plan policy
      (bumpEvm lib session scope key saved)
      (fun replacement after _ => here.Touches key after ∧
        after.memory.confirmations = here.memory.confirmations ∧
        after.memory.get key = some (.evm replacement) ∧
        replacement.hash = lib.keccak256 replacement.raw ∧
        replacement.sender = saved.sender ∧ replacement.nonce = saved.nonce)
      (fun _ _ _ => True) here world := by
  refine Meets.orFail_bind (fun old decoded => ?_) (fun _ => trivial)
  refine Meets.orFail_bind (fun signer _ => ?_) (fun _ => trivial)
  refine Meets.ensure_bind (fun identity => ?_) (fun _ => trivial)
  obtain ⟨isSigner, recovered, sameNonce⟩ := identity
  refine keeps_need (fun _ _ _ => rfl) ?_ (fun _ _ => trivial)
  intro _ _ _ _ gasPrice _
  refine keeps_attemptValue (fun request requested => ?_) (fun _ => trivial)
  refine keeps_need (fun _ _ _ => rfl) ?_ (fun _ _ => trivial)
  intro _ _ reply allowed envelope unpacked
  have fills : Fills lib signer request envelope := allowed envelope unpacked
  refine keeps_check (fun valid => ?_) (fun _ => trivial)
  refine keeps_currentJournal fun _ _ => ?_
  refine keeps_check (fun budget => ?_) (fun _ => trivial)
  refine keeps_need (fun _ _ _ => rfl) ?_ (fun _ _ => trivial)
  intro _ _ _ _ balance _
  refine Meets.ensure_bind (fun _ => ?_) (fun _ => trivial)
  refine keeps_askOperator fun _ _ approved => ?_
  have nonce : envelope.nonce = saved.nonce :=
    (fills.2.1 old.nonce (replacementRequest_nonce requested)).trans sameNonce
  split
  · refine keeps_replaceAction synced current ?_ ?_ (fun _ _ _ => trivial)
    · intro moved _
      exact .replaceEvm key saved _
        { current := current
          made := ⟨old, envelope, decoded, recovered, sameNonce,
              ⟨rfl, rfl, fills.1.trans (congrArg some isSigner), nonce, rfl⟩, valid⟩
          intent := rfl
          sender := rfl
          nonce := rfl
          budget := budget }
    · intro moved _
      exact ⟨Station.touches_replace here _ _ _, rfl,
        Journal.get_replace_self _ _ _ _, rfl, rfl, rfl⟩
  · trivial

theorem keeps_resumeEvm {intent : Digest} (synced : here.Synced)
    (sound : honest → here.memory.Sound lib) (current : here.memory.get key = some (.evm saved)) :
    Keeps lib honest session.plan policy
      (resumeEvm lib session scope saved intent key)
      (fun _ after _ => here.Touches key after ∧ ∃ tx, after.memory.get key = some (.evm tx) ∧
          tx.sender = saved.sender ∧ tx.nonce = saved.nonce)
      (fun _ _ _ => True) here world := by
  refine Meets.ensure_bind (fun identity => ?_) (fun _ => trivial)
  refine keeps_currentJournal fun _ _ => ?_
  have resumed : ∀ after, here.SameCore after → here.Touches key after ∧
          ∃ tx, after.memory.get key = some (.evm tx) ∧
            tx.sender = saved.sender ∧ tx.nonce = saved.nonce := by
    intro after same
    exact ⟨same.touches synced key, saved, (same.get key).trans current, rfl, rfl⟩
  refine (keeps_included sound _).andThen (fun _ _ _ _ => trivial) ?_
  intro found after _ shown
  obtain ⟨rfl, told⟩ := shown
  cases found with
  | some receipt =>
    exact (keeps_waitConfirmed synced (told receipt rfl).2).weaken
      (fun _ after _ same => resumed after same) (fun _ _ _ ends => ends)
  | none =>
    refine keeps_need (fun _ _ _ => rfl) ?_ (fun _ _ => trivial)
    intro _ _ _ _ count _
    refine Meets.ensure_bind (fun _ => ?_) (fun _ => trivial)
    simp only [Program.bind_eq, latestAttempts]
    split
    · -- The replacement is in the journal before its bytes are sent.
      refine Meets.bind ((keeps_bumpEvm synced current).andThen (fun _ _ _ _ => trivial) ?_)
      intro replacement now _ bumped
      obtain ⟨touched, sameResults, nowCurrent, hash, sender, nonce⟩ := bumped
      refine Meets.orFail_bind (fun latest last => ?_) (fun _ => trivial)
      have isReplacement : replacement = latest := by simpa using last
      subst isReplacement
      refine (keeps_broadcastEvm touched.synced (mem_history_of_get nowCurrent)
        hash).andThen (fun _ _ _ _ => trivial) ?_
      intro _ sent _ unchanged
      subst unchanged
      refine keeps_ask (fun _ _ _ => rfl) fun _ _ rounds => ?_
      have sentSound : honest → sent.memory.Sound lib := by
        intro trusted hash receipt confirmed
        rw [Journal.confirmation, sameResults] at confirmed
        exact sound trusted hash receipt confirmed
      refine (keeps_awaitInclusion touched.synced sentSound rounds).weaken
        ?_ (fun _ _ _ ends => ends)
      intro _ last _ same
      exact ⟨touched.trans (same.touches touched.synced key), replacement,
        (same.get key).trans nowCurrent, sender, nonce⟩
    · refine Meets.orFail_bind (fun latest last => ?_) (fun _ => trivial)
      have isSaved : saved = latest :=
        Option.some.inj ((competingAttempts_getLast _ _ _).symm.trans last)
      subst isSaved
      refine (keeps_broadcastEvm synced (mem_history_of_get current)
        identity.2.symm).andThen (fun _ _ _ _ => trivial) ?_
      intro _ _ _ unchanged
      subst unchanged
      refine keeps_ask (fun _ _ _ => rfl) fun _ _ rounds => ?_
      exact (keeps_awaitInclusion synced sound rounds).weaken
        (fun _ after _ same => resumed after same) (fun _ _ _ ends => ends)

structure SentAs (journal : Journal) (key : ActionKey) (signer : Address) (pinned : Option U64)
    (tx : EvmTransaction) : Prop where
  fresh : journal.get key = none → tx.sender = signer ∧ ∀ nonce ∈ pinned, tx.nonce = nonce
  kept : ∀ old, journal.get key = some (.evm old) → tx.sender = old.sender ∧ tx.nonce = old.nonce

theorem keeps_checkPinnedNonce {plan : Plan} {signer : Address} {label : EvmLabel}
    (pinned : Option U64) :
    Keeps lib honest plan policy (checkPinnedNonce signer label pinned)
      (fun _ after _ => after = here) (fun _ _ _ => True) here world := by
  cases pinned with
  | none => rfl
  | some nonce =>
    refine keeps_need (fun _ _ _ => rfl) ?_ (fun _ _ => trivial)
    intro _ _ _ _ current _
    exact Meets.ensure (fun _ => rfl) (fun _ => trivial)

theorem keeps_sendEvm {request : TransactionRequest} {label : EvmLabel} (synced : here.Synced)
    (sound : honest → here.memory.Sound lib)
    (permitted : ∀ signer tx envelope, lib.evmAddress scope.evmKey = some signer →
        EvmMade lib tx envelope →
        Fills lib signer
          (preparedRequest session.plan here.memory (.evm scope.step label) signer
            request) envelope →
        policy.records here (.evm scope.step label) (.evm tx)) :
    Keeps lib honest session.plan policy
      (sendEvm lib session scope request label)
      (fun _ after _ => here.Touches (.evm scope.step label) after ∧ ∃ tx signer,
          after.memory.get (.evm scope.step label) = some (.evm tx) ∧
          lib.evmAddress scope.evmKey = some signer ∧
          SentAs here.memory (.evm scope.step label) signer request.nonce tx)
      (fun _ _ _ => True) here world := by
  refine Meets.orFail_bind (fun signer isSigner => ?_) (fun _ => trivial)
  refine keeps_need (fun _ _ _ => rfl) ?_ (fun _ _ => trivial)
  intro _ _ _ _ chainId _
  refine Meets.ensure_bind (fun _ => ?_) (fun _ => trivial)
  refine keeps_currentJournal fun _ _ => ?_
  refine keeps_attemptValue (fun intent _ => ?_) (fun _ => trivial)
  refine keeps_getAction fun _ _ => ?_
  split
  · rename_i saved current
    refine (keeps_resumeEvm synced sound current).mono ?_
    intro _ after _ resumed
    obtain ⟨touched, tx, isCurrent, sender, nonce⟩ := resumed
    refine ⟨touched, tx, signer, isCurrent, isSigner, ⟨fun absent => ?_, ?_⟩⟩
    · rw [current] at absent
      cases absent
    · intro old isOld
      rw [current] at isOld
      cases isOld
      exact ⟨sender, nonce⟩
  · trivial
  · refine (keeps_checkPinnedNonce _).andThen (fun _ _ _ _ => trivial) ?_
    intro _ now _ unchanged
    subst unchanged
    refine keeps_need (fun _ _ _ => rfl) ?_ (fun _ _ => trivial)
    intro _ _ _ _ _ _
    refine keeps_need (fun _ _ _ => rfl) ?_ (fun _ _ => trivial)
    intro _ _ reply allowed envelope unpacked
    have fills := allowed envelope unpacked
    refine keeps_currentJournal fun _ _ => ?_
    refine keeps_check (fun retry => ?_) (fun _ => trivial)
    refine keeps_check (fun budget => ?_) (fun _ => trivial)
    refine keeps_askOperator fun _ _ approved => ?_
    split
    · refine keeps_recordAction synced ?_ ?_ (fun _ _ _ => trivial)
      · intro moved _ fresh
        refine .recordEvm _ _
          ⟨?_, fresh, ⟨envelope, ⟨rfl, rfl, fills.1, rfl, rfl⟩, ?_, retry⟩, budget⟩
          (permitted signer _ envelope isSigner ⟨rfl, rfl, fills.1, rfl, rfl⟩ fills)
        · intro isCosmos
          cases isCosmos
        · exact fills.2.2.2.1 _ rfl
      · intro moved _ fresh
        have written := Station.touches_record now (.evm scope.step label) (.evm
            { intent := intent
              raw := lib.encodeEnvelope envelope
              hash := lib.txHash envelope
              sender := signer
              nonce := envelope.nonce
              gasCost := envelope.gasCost })
        refine (keeps_resumeEvm written.synced sound
          (Journal.get_record_self _ _ _)).mono ?_
        intro _ after _ resumed
        obtain ⟨touched, tx, isCurrent, sender, nonce⟩ := resumed
        refine ⟨written.trans touched, tx, signer, isCurrent, isSigner, ⟨?_, ?_⟩⟩
        · intro _
          exact ⟨sender, fun pinned isPinned =>
            nonce.trans (fills.2.1 pinned isPinned)⟩
        · intro old isOld
          rw [fresh] at isOld
          cases isOld
    · trivial

theorem keeps_reconcileEvm {saved : Transaction} (synced : here.Synced)
    (sound : honest → here.memory.Sound lib) (current : here.memory.get key = some saved) :
    Keeps lib honest session.plan policy
      (reconcileEvm lib session scope key saved)
      (fun _ after _ => here.Touches key after)
      (fun _ _ _ => True) here world := by
  cases saved with
  | cosmos _ => exact (Station.SameCore.refl here).touches synced key
  | evm saved =>
    refine (keeps_resumeEvm synced sound current).andThen (fun _ _ _ _ => trivial) ?_
    intro _ after _ resumed
    exact resumed.1

theorem keeps_proveFailed (synced : here.Synced) (sound : honest → here.memory.Sound lib) :
    Keeps lib honest session.plan policy
      (proveFailed lib session key saved)
      (fun _ after moved => here.SameCore after ∧ key.step ≠ .axelarGateway ∧
        (honest → moved.evm.FailedFinally saved.sender saved.nonce))
      (fun _ _ _ => True) here world := by
  refine keeps_need (fun _ _ _ => rfl) ?_ (fun _ _ => trivial)
  intro _ _ _ _ chainId _
  refine Meets.ensure_bind (fun _ => ?_) (fun _ => trivial)
  refine keeps_check (fun savedValid => ?_) (fun _ => trivial)
  refine keeps_currentJournal fun _ _ => ?_
  refine keeps_check (fun attemptsValid => ?_) (fun _ => trivial)
  refine keeps_check (fun _ => ?_) (fun _ => trivial)
  refine (keeps_included sound _).andThen (fun _ _ _ _ => trivial) ?_
  intro found after _ shown
  obtain ⟨rfl, told⟩ := shown
  refine Meets.orFail_bind (fun receipt isFound => ?_) (fun _ => trivial)
  obtain ⟨⟨attempt, member, hashed⟩, receiptSound⟩ := told receipt isFound
  refine Meets.ensure_bind (fun _ => ?_) (fun _ => trivial)
  refine keeps_ask (fun _ _ _ => rfl) fun _ _ rounds => ?_
  refine (keeps_waitReceipt synced rounds hashed receiptSound).andThen (fun _ _ _ _ => trivial) ?_
  intro result now moved waited
  obtain ⟨same, resultHash, final⟩ := waited
  refine Meets.ensure_bind (fun failed => ?_) (fun _ => trivial)
  refine ⟨same, (validateAction_ok savedValid).1, fun trusted => ?_⟩
  exact (final rfl trusted).failedFinally failed resultHash
    (validateActions_ok attemptsValid attempt member) (mem_competingAttempts member)

end Programs

end Axe.Hardened

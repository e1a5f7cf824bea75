import Axe.SampleNode

namespace Axe.Hardened

/-!
# The history of an action

The transactions recorded for an action form a list that only grows at its end.
Neighbours in it execute the same for the same sender.  A fee replacement spends
the same nonce or sequence number for a higher fee; a retry after a retirement
spends a later one.
-/

/-- What is executed. -/
inductive Content where
  | evm (chainId : Option U64) (destination : TxKind) (value : U256) (input : Bytes)
  | cosmos (body : Bytes)
  deriving DecidableEq

namespace Transaction

/-- What a transaction does, apart from its fees. -/
def content (lib : Platform) : Transaction → Option Content
  | .evm tx =>
    (lib.decodeEnvelope tx.raw).map fun envelope =>
      .evm envelope.chainId envelope.kind envelope.value envelope.input
  | .cosmos tx => (cosmosBody lib tx.raw).map .cosmos

/-- The account that pays for a transaction. -/
def sender : Transaction → Address ⊕ String
  | .evm tx => .inl tx.sender
  | .cosmos tx => .inr tx.sender

/-- The nonce or the sequence number. -/
def number : Transaction → Nat
  | .evm tx => tx.nonce.toNat
  | .cosmos tx => tx.sequence

/-- The highest fee that a transaction offers: for a unit of gas, or as a whole. -/
def maximumFee (lib : Platform) : Transaction → Nat
  | .evm tx =>
    ((lib.decodeEnvelope tx.raw).map fun envelope =>
      envelope.maxFeePerGas.toNat).getD 0
  | .cosmos tx => tx.feePaid

def isCosmos : Transaction → Bool
  | .evm _ => false
  | .cosmos _ => true

end Transaction

/-- Both transactions execute the same for the same sender. -/
structure SameExecution (lib : Platform) (old new : Transaction) : Prop where
  kind : new.isCosmos = old.isCosmos
  sender : new.sender = old.sender
  content : ∃ content, old.content lib = some content ∧ new.content lib = some content

/-- The same execution at the same number with a higher fee. -/
structure FeeReplacement (lib : Platform) (old new : Transaction) : Prop where
  same : SameExecution lib old new
  number : new.number = old.number
  fee : old.maximumFee lib < new.maximumFee lib

/-- The same execution at a later number. -/
structure Retry (lib : Platform) (old new : Transaction) : Prop where
  same : SameExecution lib old new
  number : old.number < new.number

section Links

variable {lib : Platform} {honest : Prop} {plan : Plan} {journal : Journal} {key : ActionKey}

theorem TxKind.destination_injective : Function.Injective TxKind.destination := by
  intro first second same
  cases first <;> cases second <;> simp_all [TxKind.destination]

/-- The same transaction of the same signer with a higher fee. -/
structure ReplacesOnlyFee (lib : Platform) (old new : Envelope) : Prop where
  signer : ∃ signer, lib.recoverAddress old = some signer ∧ lib.recoverAddress new = some signer
  chainId : old.chainId = new.chainId
  kind : old.kind = new.kind
  value : old.value = new.value
  nonce : old.nonce = new.nonce
  gasLimit : old.gasLimit = new.gasLimit
  input : old.input = new.input
  ty : old.ty = new.ty
  higher : old.maxFeePerGas < new.maxFeePerGas

theorem validateReplacement_ok {old new : Envelope}
    (valid : validateReplacement lib old new = .ok ()) :
    ReplacesOnlyFee lib old new := by
  unfold validateReplacement at valid
  split at valid
  · rename_i oldSender newSender oldSigned newSigned
    split at valid
    · rename_i oldIntent newIntent oldHash newHash
      split at valid
      · rename_i sameIntent
        split at valid
        · rename_i higher
          rw [← sameIntent.1] at newHash
          have same := intentHash_inj oldHash newHash
          have sameSigner : oldSender = newSender := Option.some.inj same.fromAddress
          rw [← sameSigner] at newSigned
          exact
            { signer := ⟨oldSender, oldSigned, newSigned⟩
              chainId := same.chainId
              kind := TxKind.destination_injective same.callee
              value := same.value
              nonce := Option.some.inj same.nonce
              gasLimit := Option.some.inj same.gas
              input := same.input
              ty := sameIntent.2
              higher := higher }
        · cases valid
      · cases valid
    · cases valid
    · cases valid
  · cases valid

/--
Requests with the same hashed bytes agree on chain, sender, destination, value,
nonce, gas and call data; so an accepted replacement has the signer of the old
transaction, executes the same and pays a higher fee.
-/
theorem intent_hashing_is_injective : (∀ (first second : TransactionRequest) (bytes : Bytes),
      intentBytes first = .ok bytes → intentBytes second = .ok bytes → SameIntent first second) ∧
      ∀ old new : Envelope,
        validateReplacement lib old new = .ok () → ReplacesOnlyFee lib old new :=
  ⟨fun _ _ _ firstBytes secondBytes => intentBytes_inj firstBytes secondBytes,
    fun _ _ valid => validateReplacement_ok valid⟩

def Sample.cappedCall (maxFee : U128) : Envelope where
  ty := .eip1559
  chainId := some 1
  nonce := 3
  gasLimit := 21000
  fees := .dynamic maxFee 1
  kind := .call 9
  value := 0
  input := [7]
  accessList := some []
  authorizationList := none
  blobVersionedHashes := none
  signature := word160.encode 5

/-- A replacement with a doubled cap is accepted, and the result applies to it. -/
theorem intent_hashing_is_injective_of_doubled :
    validateReplacement Sample.platform (Sample.cappedCall 10) (Sample.cappedCall 20) = .ok () ∧
      ReplacesOnlyFee Sample.platform (Sample.cappedCall 10) (Sample.cappedCall 20) := by
  have valid : validateReplacement Sample.platform (Sample.cappedCall 10) (Sample.cappedCall 20) =
        .ok () := by
    decide +kernel
  exact ⟨valid, intent_hashing_is_injective.2 _ _ valid⟩

theorem ReplacesEvm.feeReplacement {old tx : EvmTransaction}
    (checked : ReplacesEvm lib plan journal key old tx) :
    FeeReplacement lib (.evm old) (.evm tx) := by
  obtain ⟨oldEnvelope, envelope, decodesOld, _, _, made, valid⟩ := checked.made
  have decodes : lib.decodeEnvelope tx.raw = some envelope := by
    rw [made.raw, lib.decodeEnvelope_encode]
  have same := validateReplacement_ok valid
  refine ⟨⟨rfl, ?_, ?_⟩, ?_, ?_⟩
  · simp [Transaction.sender, checked.sender]
  · refine ⟨.evm oldEnvelope.chainId oldEnvelope.kind oldEnvelope.value oldEnvelope.input, ?_, ?_⟩
    · simp [Transaction.content, decodesOld]
    · simp [Transaction.content, decodes, same.chainId, same.kind, same.value, same.input]
  · simp [Transaction.number, checked.nonce]
  · simpa [Transaction.maximumFee, decodesOld, decodes, BitVec.lt_def] using same.higher

variable {old tx : CosmosTransaction}

theorem ReplacesCosmos.feeReplacement (checked : ReplacesCosmos lib plan journal key old tx)
    (made : CosmosMade lib old) :
    FeeReplacement lib (.cosmos old) (.cosmos tx) := by
  obtain ⟨_, _, messages, _, body⟩ := made.content
  obtain ⟨amount, written, higher, _⟩ := checked.fee
  refine ⟨⟨rfl, ?_, ?_⟩, ?_, ?_⟩
  · simp [Transaction.sender, checked.sender]
  · refine ⟨.cosmos (lib.encodeTxBody ⟨messages, "", 0⟩), ?_, ?_⟩
    · simp [Transaction.content, body]
    · simp [Transaction.content, checked.body, body]
  · simp [Transaction.number, checked.sequence]
  · have value := feeValue_of_decimalText written amount.isLt
    simpa [Transaction.maximumFee, CosmosTransaction.feePaid, value] using higher

theorem validateRetryFields_ok {old new : Envelope} (valid : validateRetryFields old new = .ok ()) :
    old.nonce < new.nonce ∧ old.chainId = new.chainId ∧ old.kind = new.kind ∧
      old.value = new.value ∧ old.input = new.input := by
  unfold validateRetryFields at valid
  split at valid
  · rename_i same
    exact ⟨same.1, same.2.1, same.2.2.1, same.2.2.2.1, same.2.2.2.2.1⟩
  · cases valid

theorem RecordsEvm.isRetry {old tx : EvmTransaction} (checked : RecordsEvm lib plan journal key tx)
    (retired : (journal.past key).getLast? = some (.evm old))
    (oldMade : Transaction.Made lib (.evm old)) :
    Retry lib (.evm old) (.evm tx) := by
  obtain ⟨envelope, made, _, valid⟩ := checked.made
  obtain ⟨oldEnvelope, oldMade⟩ := oldMade
  have decodesOld : lib.decodeEnvelope old.raw = some oldEnvelope := by
    rw [oldMade.raw, lib.decodeEnvelope_encode]
  have decodes : lib.decodeEnvelope tx.raw = some envelope := by
    rw [made.raw, lib.decodeEnvelope_encode]
  simp only [validateRetry, retired, decodesOld] at valid
  split at valid
  · cases valid
  · rename_i fields
    obtain ⟨nonce, chainId, kind, value, input⟩ := validateRetryFields_ok fields
    split at valid
    · rename_i sameSigner
      have sender : tx.sender = old.sender := Option.some.inj (made.sender.symm.trans sameSigner)
      refine ⟨⟨rfl, ?_, ?_⟩, ?_⟩
      · simp [Transaction.sender, sender]
      · refine ⟨.evm oldEnvelope.chainId oldEnvelope.kind oldEnvelope.value
          oldEnvelope.input, ?_, ?_⟩
        · simp [Transaction.content, decodesOld]
        · simp [Transaction.content, decodes, chainId, kind, value, input]
      · rw [oldMade.nonce, made.nonce] at nonce
        exact nonce
    · cases valid

theorem cosmosIntent_inj {address address' chain chain' denom denom' : String}
    {messages messages' : List AnyMessage}
    (same : cosmosIntent lib address chain denom messages =
        cosmosIntent lib address' chain' denom' messages') :
    address = address' ∧ messages = messages' := by
  obtain ⟨sameAddress, _, _, samePairs⟩ := lib.intentJson_injective (lib.keccak256_injective same)
  refine ⟨sameAddress, ?_⟩
  refine (List.map_injective_iff.mpr ?_) samePairs
  intro first second pair
  cases first
  cases second
  simpa using pair

theorem RecordsCosmos.isRetry (checked : RecordsCosmos lib plan journal key tx)
    (retired : (journal.past key).getLast? = some (.cosmos old)) (oldMade : CosmosMade lib old) :
    Retry lib (.cosmos old) (.cosmos tx) := by
  have valid := checked.retry
  simp only [validateCosmosRetry, retired] at valid
  split at valid
  · rename_i sameIntent
    split at valid
    · rename_i later
      obtain ⟨_, _, messages, intent, body⟩ := checked.made.content
      obtain ⟨_, _, oldMessages, oldIntent, oldBody⟩ := oldMade.content
      rw [intent, oldIntent] at sameIntent
      obtain ⟨sender, sameMessages⟩ := cosmosIntent_inj sameIntent
      refine ⟨⟨rfl, ?_, ?_⟩, later⟩
      · simp [Transaction.sender, sender]
      · refine ⟨.cosmos (lib.encodeTxBody ⟨messages, "", 0⟩), ?_, ?_⟩
        · simp [Transaction.content, oldBody, sameMessages]
        · simp [Transaction.content, body]
    · cases valid
  · cases valid

/-- Every record is of the kind of its action. -/
def KindsMatch (journal : Journal) : Prop :=
  ∀ key, ∀ transaction ∈ journal.history key, transaction.isCosmos = decide (key.label = .cosmos)

/-- Every record is a transaction that was really made. -/
def RecordsMade (lib : Platform) (journal : Journal) : Prop :=
  (∀ key, ∀ transaction ∈ journal.history key, transaction.Made lib) ∧ KindsMatch journal

theorem records_invariant (permit : Journal → Journal → Prop) :
    JournalInvariant lib honest plan permit fun journal _ _ =>
      RecordsMade lib journal := by
  refine made_invariant.extend ?_ (fun _ before => before) ?_
  · intro fingerprint _ _ key transaction member
    simp [Journal.history, Journal.ledger, Ledger.history] at member
  · intro records journal later world move _ _ before key transaction member
    rcases (move.atKey key).history_cases with same | ⟨added, checks, _, grown⟩
    · exact before key transaction (same ▸ member)
    · rw [Journal.history, grown] at member
      rcases List.mem_append.mp member with old | new
      · exact before key transaction old
      · have isAdded : transaction = added := by simpa using new
        subst isAdded
        cases checks with
        | recordEvm checked => simp [Transaction.isCosmos, checked.label]
        | recordCosmos checked => simp [Transaction.isCosmos, checked.label]
        | replaceEvm old checked => exact before key (.evm old) (mem_history_of_get checked.current)
        | replaceCosmos old checked =>
          exact before key (.cosmos old) (mem_history_of_get checked.current)

/--
A transaction that is added to a history replaces the current one, or retries
the last one if none is current.
-/
theorem KeyMove.linked
    {world : Chains lib}
    {records : ActionKey → Transaction → Prop}
    {ledger : Ledger Transaction}
    {old new : Transaction}
    (move : KeyMove lib honest plan world records journal key ledger)
    (made : RecordsMade lib journal)
    (last : (journal.history key).getLast? = some old)
    (grown : ledger.history = journal.history key ++ [new]) :
    journal.get key = some old ∧ FeeReplacement lib old new ∨
      journal.get key = none ∧ Retry lib old new := by
  have member : old ∈ journal.history key := List.mem_of_getLast? last
  have oldMade := made.1 key old member
  have kind := made.2 key old member
  have isNew : ∀ transaction, Added lib plan journal key transaction →
        ledger.history = journal.history key ++ [transaction] → transaction = new := by
    intro transaction _ grows
    simpa using grows.symm.trans grown
  rcases move.history_cases with same | ⟨added, checks, _, grows⟩
  · simp [same] at grown
  · cases isNew added checks grows
    have past : journal.get key = none → (journal.past key).getLast? = some old := by
      intro absent
      simpa [Journal.history, Journal.ledger, Ledger.history, absent] using last
    have current : ∀ transaction, journal.get key = some transaction → transaction = old := by
      intro transaction present
      simpa [Journal.history, Journal.ledger, Ledger.history, present] using last
    cases checks with
    | recordEvm checked =>
      refine .inr ⟨checked.fresh, ?_⟩
      cases old with
      | evm old => exact checked.isRetry (past checked.fresh) oldMade
      | cosmos old => simp [Transaction.isCosmos, checked.label] at kind
    | recordCosmos checked =>
      refine .inr ⟨checked.fresh, ?_⟩
      cases old with
      | evm old => simp [Transaction.isCosmos, checked.label] at kind
      | cosmos old => exact checked.isRetry (past checked.fresh) oldMade
    | replaceEvm replaced checked =>
      cases current _ checked.current
      exact .inl ⟨checked.current, checked.feeReplacement⟩
    | replaceCosmos replaced checked =>
      cases current _ checked.current
      exact .inl ⟨checked.current, checked.feeReplacement oldMade⟩

/-- Two attempts in a row: a fee replacement or a retry. -/
def Linked (lib : Platform) (old new : Transaction) : Prop :=
  FeeReplacement lib old new ∨ Retry lib old new

theorem linked_invariant (permit : Journal → Journal → Prop) :
    JournalInvariant lib honest plan permit fun journal _ _ =>
      RecordsMade lib journal ∧ ∀ key, (journal.history key).IsChain (Linked lib) := by
  refine (records_invariant permit).extend ?_ (fun _ before => before) ?_
  · intro fingerprint _ _ key
    have noHistory : (Journal.empty fingerprint).history key = [] := by
      simp [Journal.history, Journal.ledger, Ledger.history]
    rw [noHistory]
    exact List.isChain_nil
  · intro records journal later world move _ made before key
    have change := move.atKey key
    refine change.ledgerMove.isChain (before key) fun old new last grown => ?_
    rcases change.linked made last grown with ⟨_, replaces⟩ | ⟨_, retries⟩
    · exact .inl replaces
    · exact .inr retries

end Links

section Growth

variable {lib : Platform} {honest : Prop} {plan : Plan} {policy : Policy}
variable {here here' : Station} {world world' : Chains lib}

/-- The current transaction in the file. -/
def Station.fileCurrent (here : Station) (key : ActionKey) : Option Transaction :=
  here.disk.bind fun file => file.get key

theorem Station.Synced.file (synced : here.Synced) (key : ActionKey) :
    here.fileHistory key = here.memory.history key ∧
      here.fileCurrent key = here.memory.get key := by
  obtain ⟨file, onDisk, same⟩ := Option.map_eq_some_iff.mp synced
  have sameHistory : file.history key = here.memory.history key :=
    congrArg (fun journal => journal.history key) same
  have sameCurrent : file.get key = here.memory.get key :=
    congrArg (fun journal => journal.get key) same
  exact ⟨by simp [Station.fileHistory, onDisk, sameHistory],
    by simp [Station.fileCurrent, onDisk, sameCurrent]⟩

theorem Transition.fileHistory_cases
    (transition : Transition lib honest plan policy here world here' world') (key : ActionKey) :
    here'.fileHistory key = here.fileHistory key ∨ here.fileHistory key = here.memory.history key ∧
        here.fileCurrent key = here.memory.get key ∧
        here'.fileHistory key = here'.memory.history key ∧
        KeyMove lib honest plan world (policy.records here) here.memory key
          (here'.memory.ledger key) := by
  rcases transition.disk_cases with same | ⟨absent, fingerprint, fresh⟩ | ⟨synced, written, move⟩
  · exact .inl (by simp [Station.fileHistory, same])
  · refine .inl ?_
    simp [Station.fileHistory, absent, fresh, Journal.history, Journal.ledger, Ledger.history]
  · obtain ⟨history, current⟩ := synced.file key
    exact .inr ⟨history, current, by simp [Station.fileHistory, written], move.atKey key⟩

theorem fileHistory_grows
    (change : (deployService lib honest plan).Change
        (Transition lib honest plan anyRecord) here world here' world')
    (key : ActionKey) :
    here.fileHistory key <+: here'.fileHistory key := by
  cases change with
  | perform kept =>
    rcases kept.fileHistory_cases key with same | ⟨history, _, history', move⟩
    · exact same ▸ List.prefix_rfl
    · rw [history, history']
      exact move.ledgerMove.history_grows
  | _ => exact List.prefix_rfl

variable {permit : Journal → Journal → Prop} {first last : DeployConfig lib}

theorem DeployRuns.lawful (run : DeployRuns lib honest plan permit first last)
    (initial : first.Initial) :
    last.Lawful honest plan :=
  (made_invariant.reached run initial).2

theorem DeployRuns.fileHistory_grows {middle : DeployConfig lib} (initial : first.Initial)
    (before : DeployRuns lib honest plan permit first middle)
    (after : DeployRuns lib honest plan permit middle last) (key : ActionKey) :
    middle.here.fileHistory key <+: last.here.fileHistory key := by
  induction after with
  | refl => exact List.prefix_rfl
  | tail reached step ih =>
    have lawful := DeployRuns.lawful (before.trans reached) initial
    exact ih.trans (Hardened.fileHistory_grows (lawful.change step.1) key)

theorem added_is_linked {key : ActionKey} {old new : Transaction}
    (change : (deployService lib honest plan).Change
        (Transition lib honest plan anyRecord) here world here' world')
    (made : RecordsMade lib here.memory) (last : (here.fileHistory key).getLast? = some old)
    (grown : here'.fileHistory key = here.fileHistory key ++ [new]) :
    here.fileCurrent key = some old ∧ FeeReplacement lib old new ∨
      here.fileCurrent key = none ∧ Retry lib old new := by
  have changed : here'.fileHistory key ≠ here.fileHistory key := by simp [grown]
  cases change with
  | perform kept =>
    rcases kept.fileHistory_cases key with same | ⟨history, current, history', move⟩
    · exact absurd same changed
    · rw [history', history] at grown
      rw [history] at last
      rw [current]
      exact move.linked made last grown
  | _ => exact absurd rfl changed

/--
In every run the recorded transactions of an action only grow at their end, and
neighbours execute the same for the same sender.  A transaction that is added
while another one is current spends the same number for a higher fee; one that
is added after a retirement spends a later number.
-/
theorem attempts_are_linked
    {first middle last : DeployConfig lib}
    (initial : first.Initial)
    (before : DeployRuns lib honest plan anyChange first middle)
    (after : DeployRuns lib honest plan anyChange middle last)
    (key : ActionKey) :
    middle.here.fileHistory key <+: last.here.fileHistory key ∧
      (last.here.fileHistory key).IsChain (Linked lib) ∧
      ∀ next old new, (deployService lib honest plan).Step last next →
        (last.here.fileHistory key).getLast? = some old →
        next.here.fileHistory key = last.here.fileHistory key ++ [new] →
          last.here.fileCurrent key = some old ∧ FeeReplacement lib old new ∨
            last.here.fileCurrent key = none ∧ Retry lib old new := by
  obtain ⟨linked, lawful⟩ := (linked_invariant anyChange).reached (before.trans after) initial
  refine ⟨DeployRuns.fileHistory_grows initial before after key, ?_, ?_⟩
  · cases onDisk : last.here.disk with
    | none => simp [Station.fileHistory, onDisk]
    | some file => simpa [Station.fileHistory, onDisk] using (linked.2 file onDisk).2 key
  · intro next old new step isLast grown
    exact added_is_linked (lawful.change step) linked.1.1 isLast grown

namespace Sample

/--
The payment gets a fee replacement, which a block includes with an error.  The
recovery looks for both transactions and finds only that error.  Then the first
transaction is executed, so the account moves on, and the action is retired.
The retry pays a second time.
-/
def paidTwiceScript : Script :=
  [ .launch sendRewards, .answer .prompt 16, .stop, .launch (recoverRewards
      { bumpFees := some rewardsKey.text, cosmosFee := some 5000 }),
    .answer .prompt 18, .stop,
    .world (.cosmos (.reject (rewardsRaw 0 5000) 2 5)),
    .launch (recoverRewards { retryFailed := some rewardsKey.text }),
    .answer .prompt 10,
    .world (.cosmos (.execute (rewardsRaw 0 3000) 3 0)),
    .answer .prompt 5, .stop,
    .launch sendRewards, .answer .prompt 16,
    .world (.cosmos (.execute (rewardsRaw 1 3000) 4 0)) ]

end Sample

open Sample in
/-- The result at a run with a fee replacement and a retry. -/
theorem attempts_are_linked_when_paid_twice : ∃ last : DeployConfig Sample.platform,
      DeployRuns Sample.platform True Sample.plan anyChange start last ∧
      last.here.fileHistory rewardsKey =
        [.cosmos (rewardsTransaction 0 3000), .cosmos (rewardsTransaction 0 5000),
          .cosmos (rewardsTransaction 1 3000)] ∧
      (last.here.fileHistory rewardsKey).IsChain (Linked Sample.platform) := by
  obtain ⟨last, run, found⟩ := @replay_run anyChange _ paidTwiceScript
      (fun last => last.here.fileHistory rewardsKey =
        [.cosmos (rewardsTransaction 0 3000), .cosmos (rewardsTransaction 0 5000),
          .cosmos (rewardsTransaction 1 3000)]) _ (by decide +kernel)
  exact ⟨last, run, found, (attempts_are_linked start_initial run .refl rewardsKey).2.1⟩

end Growth

end Axe.Hardened

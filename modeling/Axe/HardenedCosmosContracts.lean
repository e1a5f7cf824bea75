import Axe.CosmosFees
import Axe.HardenedContracts

namespace Axe.Hardened

/-!
# Contracts of the Cosmos programs

Looking for results and resuming change confirmed results only.  Sending enters
one new transaction, a fee bump replaces one; both then resume.  Bytes go to a
node only if they are in the journal file, or if their signature is blanked.
-/

section Bytes

variable {lib : Platform}

theorem buildAndSign_made {wallet : Wallet lib} {input : CosmosTxSignInput} {raw : Bytes}
    (built : buildAndSignCosmosTx lib wallet.key input = some raw) :
    lib.cosmosSlot raw = some (wallet.address, input.sequence) ∧ cosmosBody lib raw =
        some (lib.encodeTxBody ⟨input.messages, "", 0⟩) := by
  unfold buildAndSignCosmosTx at built
  split at built
  · cases built
    simp [Platform.cosmosSlot, cosmosBody, lib.decodeTxRaw_encode,
      lib.decodeAuthInfo_encode, wallet.address_eq, Platform.keyAccount]
  · cases built

theorem unsignedSimulation_unsigned {raw unsigned : Bytes}
    (blanked : unsignedSimulation lib raw = some unsigned) :
    ¬ lib.ValidlySigned unsigned := by
  obtain ⟨tx, _, rfl⟩ := Option.map_eq_some_iff.mp blanked
  rintro ⟨decoded, _, publicKey, _, _, signature, _, _, decodes, _, _, signed, verified⟩
  rw [lib.decodeTxRaw_encode] at decodes
  cases decodes
  have zero : ∀ byte ∈ signature, byte = 0 := by
    have listed : signature ∈ tx.signatures.map fun signature => signature.map fun _ => 0 := by
      have alone : signature ∈ [signature] := List.mem_singleton_self _
      rwa [← signed] at alone
    obtain ⟨original, _, rfl⟩ := List.mem_map.mp listed
    intro byte member
    obtain ⟨_, _, same⟩ := List.mem_map.mp member
    exact same.symm
  rw [lib.verify_zero _ _ _ zero] at verified
  cases verified

/-- What a replacement keeps of the transaction it replaces. -/
structure Resigned (lib : Platform) (saved : CosmosTransaction) (amount : U128)
    (tx : CosmosTransaction) : Prop where
  hash : tx.hash = lib.sha256 tx.raw
  slot : lib.cosmosSlot tx.raw = some (tx.sender, tx.sequence)
  body : cosmosBody lib tx.raw = cosmosBody lib saved.raw
  intent : tx.intent = saved.intent
  sender : tx.sender = saved.sender
  sequence : tx.sequence = saved.sequence
  fee : tx.fee = decimalText amount.toNat
  higher : saved.feePaid < amount.toNat

theorem resign_ok {saved tx : CosmosTransaction} {signer : SigningKey} {chain : String}
    {account : Nat} {amount : U128}
    (signs : resign lib saved signer chain account amount = .ok tx) :
    Resigned lib saved amount tx := by
  obtain ⟨original, auth, fee, denom, value, checked, raised, rfl⟩ := resign_ok_iff.mp signs
  obtain ⟨modeInfo, infos⟩ := checked.signerInfos
  refine ⟨rfl, ?_, ?_, rfl, rfl, rfl, rfl, ?_⟩
  · have account := checked.sender
    simp [Platform.cosmosSlot, lib.decodeTxRaw_encode, replacementTx, raisedAuthBytes,
      lib.decodeAuthInfo_encode, AuthInfo.withFee, infos,
      ← Platform.keyAccount.eq_1, account]
  · simp [cosmosBody, lib.decodeTxRaw_encode, replacementTx, checked.decodesTx]
  · simp only [CosmosTransaction.feePaid, CosmosTransaction.feeValue, checked.readable,
      Option.getD_some]
    exact raised

end Bytes

section Lookup

variable {lib : Platform} {honest : Prop} {plan : Plan} {policy : Policy}
variable {start here : Station} {world : Chains lib}

theorem keeps_recordResponse {hash : Digest} {response : TxResponse} (synced : here.Synced)
    (same : start.SameCore here) (truth : honest → ResponseTrue world.cosmos response) :
    Keeps lib honest plan policy (recordResponse hash response)
      (fun _ after _ => start.SameCore after)
      (fun _ after _ => start.SameCore after) here world := by
  refine Meets.ensure_bind (fun hashed => ?_) (fun _ => same)
  refine Meets.orFail_bind (fun height heightEq => ?_) (fun _ => same)
  refine Meets.ensure_bind (fun positive => ?_) (fun _ => same)
  refine Meets.orFail_bind (fun code codeEq => ?_) (fun _ => same)
  refine Meets.ensure_bind (fun _ => ?_) (fun _ => same)
  refine Meets.bind ?_
  refine keeps_confirmResult synced ?_ ?_ ?_
  · intro moved evolved
    refine .confirmCosmos hash height code response fun trusted => ?_
    exact Evolves.results evolved (truth trusted hash code height hashed codeEq heightEq positive)
  · intro after moved _ confirmed
    unfold attemptValue
    split
    · exact same.trans confirmed
    · exact same.trans confirmed
  · intro _ after moved _ confirmed
    exact same.trans confirmed

variable {lcd : String} {hashes : List Digest}

theorem keeps_lookupFirst (synced : start.Synced) (same : start.SameCore here) :
    Keeps lib honest plan policy (lookupFirst lcd hashes)
      (fun _ after _ => start.SameCore after)
      (fun _ after _ => start.SameCore after) here world := by
  have searched : Keeps lib honest plan policy (lookupFirst lcd hashes)
        (fun answer after _ => start.SameCore after ∧ ∀ value, answer = some value → True)
        (fun _ after _ => start.SameCore after) here world := by
    refine Meets.firstSome (fun hash _ now moved kept => ?_) same
    refine keeps_need (fun _ _ _ => rfl) ?_ (fun _ _ => kept)
    intro later evolved reply allowed found unpacked
    cases found with
    | none => exact ⟨kept, fun _ _ => trivial⟩
    | some response =>
      have told : honest → ResponseTrue later.cosmos response :=
        fun trusted => allowed trusted response unpacked
      refine (keeps_recordResponse (kept.synced synced) kept told).seq ?_
      intro _ after _ ends
      exact ⟨ends, fun _ _ => trivial⟩
  exact searched.weaken (fun _ _ _ ends => ends.1) (fun _ _ _ ends => ends)

variable {session : Session}

theorem keeps_recoveryLcd (same : start.SameCore here) :
    Keeps lib honest plan policy (recoveryLcd session)
      (fun _ after _ => start.SameCore after)
      (fun _ after _ => start.SameCore after) here world := by
  unfold recoveryLcd
  split
  · exact same
  · refine keeps_need (fun _ _ _ => rfl) ?_ (fun _ _ => same)
    intro _ _ _ _ network _
    exact Meets.ensure_bind (fun _ => same) (fun _ => same)

theorem scanAttempts_pending {journal : Journal} {sender : String} {sequence : Nat}
    {attempts : List Transaction}
    (scanned : scanAttempts lib journal sender sequence attempts =
        .ok (.pending hashes)) {tx : CosmosTransaction} (member : .cosmos tx ∈ attempts)
    (sameSender : tx.sender = sender) (sameSequence : tx.sequence = sequence) :
    tx.hash = lib.sha256 tx.raw := by
  induction attempts generalizing hashes with
  | nil => cases member
  | cons attempt rest ih =>
    cases attempt with
    | evm _ => exact ih scanned (by simpa using member)
    | cosmos first =>
      simp only [scanAttempts] at scanned
      split at scanned
      · split at scanned
        · rename_i matched
          split at scanned
          · cases scanned
          · split at scanned
            · rename_i later restScanned
              rcases List.mem_cons.mp member with isFirst | inRest
              · cases isFirst
                exact matched.symm
              · exact ih restScanned inRest
            · rename_i notPending
              exact absurd scanned (notPending hashes)
        · cases scanned
      · rename_i different
        rcases List.mem_cons.mp member with isFirst | inRest
        · cases isFirst
          exact absurd ⟨sameSender, sameSequence⟩ different
        · exact ih scanned inRest

variable {saved : CosmosTransaction}

theorem keeps_confirmed {key : ActionKey} (synced : start.Synced) (same : start.SameCore here) :
    Keeps lib honest plan policy
      (confirmed lib session lcd saved key)
      (fun found after _ => start.SameCore after ∧
        (found = none → saved.hash = lib.sha256 saved.raw))
      (fun _ after _ => start.SameCore after) here world := by
  refine keeps_currentJournal fun moved _ => ?_
  refine keeps_attemptValue (fun scan scanned => ?_) (fun _ => same)
  cases scan with
  | cached response =>
    exact keeps_attemptValue (fun _ _ => ⟨same, fun absent => by cases absent⟩) (fun _ => same)
  | pending hashes =>
    have hashed : saved.hash = lib.sha256 saved.raw :=
      scanAttempts_pending scanned (by simp) rfl rfl
    refine (keeps_lookupFirst synced same).seq ?_
    intro found after later kept
    cases found with
    | some response => exact ⟨kept, fun _ => hashed⟩
    | none =>
      refine (keeps_recoveryLcd kept).seq ?_
      intro archive after later kept
      cases archive with
      | none => exact ⟨kept, fun _ => hashed⟩
      | some archive =>
        exact (keeps_lookupFirst synced kept).weaken (fun _ _ _ ends => ⟨ends, fun _ => hashed⟩)
          (fun _ _ _ ends => ends)

theorem keeps_pollConfirmed {key : ActionKey} (synced : start.Synced) (rounds : Nat)
    (same : start.SameCore here) :
    Keeps lib honest plan policy
      (pollConfirmed lib session lcd saved key rounds)
      (fun _ after _ => start.SameCore after)
      (fun _ _ _ => True) here world := by
  induction rounds generalizing here world with
  | zero => trivial
  | succ rounds ih =>
    refine (keeps_confirmed synced same).andThen (fun _ _ _ _ => trivial) ?_
    intro found after later kept
    cases found with
    | some response => exact kept.1
    | none =>
      refine keeps_ask (fun _ _ _ => rfl) fun moved _ _ => ?_
      exact ih kept.1

end Lookup

section Resume

variable {lib : Platform} {honest : Prop} {policy : Policy} {session : Session}
variable {here : Station} {world : Chains lib}

variable {lcd : String} {saved : CosmosTransaction} {key : ActionKey}

theorem keeps_resumeCosmos (synced : here.Synced)
    (current : here.memory.get key = some (.cosmos saved)) :
    Keeps lib honest session.plan policy
      (resumeCosmos lib session lcd saved key)
      (fun _ after _ => here.SameCore after)
      (fun _ _ _ => True) here world := by
  refine (keeps_confirmed synced (.refl here)).andThen (fun _ _ _ _ => trivial) ?_
  intro found now later ended
  obtain ⟨kept, hashed⟩ := ended
  cases found with
  | some response => exact kept
  | none =>
    refine keeps_check (fun _ => ?_) (fun _ => trivial)
    refine keeps_need (fun _ _ _ => rfl) ?_ (fun _ _ => trivial)
    intro _ _ _ _ account _
    refine Meets.ensure_bind (fun _ => ?_) (fun _ => trivial)
    refine Meets.perform_bind fun moved _ accepted _ => ?_
    have recorded : .cosmos saved ∈ now.memory.history key := by
      have present := (kept.get key).trans current
      simp [Journal.history, Journal.ledger, Ledger.history, present]
    refine ⟨.handCosmos key saved (kept.synced synced) recorded (hashed rfl), ?_⟩
    split
    · exact keeps_pollConfirmed synced 10 kept
    · trivial

variable {messages : List AnyMessage}

theorem keeps_approveSubmission {feeDenom address : String} {fee : Nat} :
    Keeps lib honest session.plan policy
      (approveSubmission lib lcd feeDenom address messages fee)
      (fun _ after _ => after = here)
      (fun _ _ _ => True) here world := by
  refine keeps_attemptValue (fun _ _ => ?_) (fun _ => trivial)
  refine Meets.ensure_bind (fun _ => ?_) (fun _ => trivial)
  refine keeps_need (fun _ _ _ => rfl) ?_ (fun _ _ => trivial)
  intro _ _ _ _ _ _
  split
  · refine keeps_need (fun _ _ _ => rfl) ?_ (fun _ _ => trivial)
    intro _ _ _ _ _ _
    refine keeps_need (fun _ _ _ => rfl) ?_ (fun _ _ => trivial)
    intro _ _ _ _ _ _
    exact Meets.read (fun _ _ _ => rfl) (fun _ _ => .stutter) fun _ _ _ _ => rfl
  · refine keeps_need (fun _ _ _ => rfl) ?_ (fun _ _ => trivial)
    intro _ _ _ _ _ _
    exact Meets.read (fun _ _ _ => rfl) (fun _ _ => .stutter) fun _ _ _ _ => rfl

theorem keeps_sendCosmos {scope : Scope} {wallet : Wallet lib} {chainId feeDenom : String}
    {gasPrice : GasPrice} (synced : here.Synced)
    (permitted : ∀ tx, policy.records here (.cosmos scope.step) (.cosmos tx)) :
    Keeps lib honest session.plan policy
      (sendCosmos lib session scope wallet lcd chainId feeDenom gasPrice messages)
      (fun _ after _ => here.Touches (.cosmos scope.step) after)
      (fun _ _ _ => True) here world := by
  refine Meets.ensure_bind (fun _ => ?_) (fun _ => trivial)
  refine Meets.ensure_bind (fun _ => ?_) (fun _ => trivial)
  refine keeps_getAction fun _ _ => ?_
  split
  · trivial
  · rename_i saved current
    refine Meets.ensure_bind (fun _ => ?_) (fun _ => trivial)
    exact (keeps_resumeCosmos synced current).weaken
      (fun _ _ _ same => same.touches synced _) (fun _ _ _ _ => trivial)
  · refine keeps_need (fun _ _ _ => rfl) ?_ (fun _ _ => trivial)
    intro _ _ _ _ account _
    refine keeps_currentJournal fun _ _ => ?_
    refine keeps_check (fun retry => ?_) (fun _ => trivial)
    refine Meets.orFail_bind (fun simulation _ => ?_) (fun _ => trivial)
    refine Meets.orFail_bind (fun unsigned blanked => ?_) (fun _ => trivial)
    refine Meets.perform_bind fun _ _ simulated _ => ?_
    refine ⟨.simulate unsigned (unsignedSimulation_unsigned blanked), ?_⟩
    refine Meets.orFail_bind (fun used _ => ?_) (fun _ => trivial)
    refine Meets.ensure_bind (fun _ => ?_) (fun _ => trivial)
    refine keeps_currentJournal fun _ _ => ?_
    refine keeps_check (fun budget => ?_) (fun _ => trivial)
    refine keeps_approveSubmission.andThen (fun _ _ _ _ => trivial) ?_
    intro approved after _ unchanged
    subst unchanged
    split
    · refine Meets.orFail_bind (fun raw built => ?_) (fun _ => trivial)
      obtain ⟨slot, body⟩ := buildAndSign_made built
      refine keeps_recordAction synced ?_ ?_ (fun _ _ _ => trivial)
      · intro moved _ fresh
        refine .recordCosmos _ _ ⟨rfl, fresh, ⟨rfl, slot, ?_⟩, retry, ⟨_, rfl, budget⟩⟩
          (permitted _)
        exact ⟨chainId, feeDenom, messages, rfl, body⟩
      · intro moved _ _
        refine (keeps_resumeCosmos (Station.synced_written after _)
          (Journal.get_record_self _ _ _)).weaken ?_ (fun _ _ _ _ => trivial)
        intro _ last _ same
        exact (Station.touches_record after _ _).trans
          (same.touches (Station.synced_written after _) _)
    · trivial

theorem keeps_bumpCosmos (synced : here.Synced)
    (current : here.memory.get key = some (.cosmos saved)) :
    Keeps lib honest session.plan policy
      (bumpCosmos lib session lcd key saved)
      (fun _ after _ => here.Touches key after)
      (fun _ _ _ => True) here world := by
  refine (keeps_confirmed synced (.refl here)).andThen (fun _ _ _ _ => trivial) ?_
  intro found now later ended
  obtain ⟨kept, _⟩ := ended
  have nowSynced : now.Synced := kept.synced synced
  have nowCurrent : now.memory.get key = some (.cosmos saved) := (kept.get key).trans current
  cases found with
  | some response => exact kept.touches synced key
  | none =>
    refine keeps_need (fun _ _ _ => rfl) ?_ (fun _ _ => trivial)
    intro _ _ _ _ account _
    refine Meets.ensure_bind (fun _ => ?_) (fun _ => trivial)
    refine Meets.ensure_bind (fun _ => ?_) (fun _ => trivial)
    refine keeps_currentState fun _ _ => ?_
    refine keeps_attemptValue (fun mnemonic _ => ?_) (fun _ => trivial)
    refine Meets.orFail_bind (fun signer _ => ?_) (fun _ => trivial)
    refine Meets.orFail_bind (fun amount _ => ?_) (fun _ => trivial)
    refine keeps_attemptValue (fun replacement signs => ?_) (fun _ => trivial)
    have resigned := resign_ok signs
    refine keeps_attemptValue (fun details _ => ?_) (fun _ => trivial)
    refine keeps_currentJournal fun _ _ => ?_
    refine keeps_check (fun budget => ?_) (fun _ => trivial)
    refine keeps_attemptValue (fun funds _ => ?_) (fun _ => trivial)
    refine Meets.ensure_bind (fun _ => ?_) (fun _ => trivial)
    refine keeps_need (fun _ _ _ => rfl) ?_ (fun _ _ => trivial)
    intro _ _ _ _ _ _
    refine keeps_need (fun _ _ _ => rfl) ?_ (fun _ _ => trivial)
    intro _ _ _ _ _ _
    refine keeps_askOperator fun _ _ approved => ?_
    split
    · refine keeps_replaceAction nowSynced nowCurrent ?_ ?_ (fun _ _ _ => trivial)
      · intro moved _
        exact .replaceCosmos key saved replacement
          { current := nowCurrent
            hash := resigned.hash
            slot := resigned.slot
            body := resigned.body
            intent := resigned.intent
            sender := resigned.sender
            sequence := resigned.sequence
            fee := ⟨_, resigned.fee, resigned.higher, budget⟩ }
      · intro moved _
        refine (keeps_resumeCosmos (Station.synced_written now _)
          (Journal.get_replace_self _ _ _ _)).andThen (fun _ _ _ _ => trivial) ?_
        intro _ last _ same
        exact (kept.touches synced key).trans ((Station.touches_replace now _ _ _).trans
            (same.touches (Station.synced_written now _) _))
    · trivial

theorem keeps_reconcileCosmos {saved : Transaction} (synced : here.Synced)
    (current : here.memory.get key = some saved) :
    Keeps lib honest session.plan policy
      (reconcileCosmos lib session key saved lcd)
      (fun _ after _ => here.Touches key after)
      (fun _ _ _ => True) here world := by
  cases saved with
  | evm _ => exact (Station.SameCore.refl here).touches synced key
  | cosmos saved =>
    simp only [reconcileCosmos]
    split
    · exact keeps_bumpCosmos synced current
    · refine (keeps_resumeCosmos synced current).andThen (fun _ _ _ _ => trivial) ?_
      intro _ after _ same
      exact same.touches synced key

end Resume

end Axe.Hardened

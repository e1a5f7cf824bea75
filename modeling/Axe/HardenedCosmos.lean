import Axe.HardenedSession

namespace Axe.Hardened

/-!
# Cosmos transactions

Sending signs a transaction, writes it to the journal and then resumes it.
Resuming looks for the result of the transaction and of its fee replacements,
and broadcasts the recorded bytes again only while their sequence number is the
next one of the account.
-/

structure CosmosTxSignInput where
  chainId : String
  accountNumber : Nat
  sequence : Nat
  gasLimit : Nat
  feeAmount : Nat
  feeDenom : String
  messages : List AnyMessage
  deriving DecidableEq

variable (lib : Platform)

/-- Build a transaction and sign it. -/
def buildAndSignCosmosTx (key : SigningKey) (input : CosmosTxSignInput) : Option Bytes :=
  if lib.validDenom input.feeDenom ∧ lib.validChainId input.chainId then
    let body := lib.encodeTxBody ⟨input.messages, "", 0⟩
    let auth :=
      lib.encodeAuthInfo
        ⟨[⟨some (lib.publicKey key), some lib.directMode, input.sequence⟩],
          some ⟨[⟨input.feeDenom, decimalText input.feeAmount⟩], input.gasLimit, "", ""⟩,
          none⟩
    let signDoc := ⟨body, auth, input.chainId, input.accountNumber⟩
    some
      (lib.encodeTxRaw ⟨body, auth, [lib.sign key (lib.encodeSignDoc signDoc)]⟩)
  else
    none

/-- The transaction with its signature zeroed, for a simulation. -/
def unsignedSimulation (raw : Bytes) : Option Bytes :=
  (lib.decodeTxRaw raw).map fun tx =>
    lib.encodeTxRaw
      { tx with
        signatures := tx.signatures.map fun signature => signature.map fun _ => 0 }

/-- The hash of what is to be executed. -/
def cosmosIntent (address chainId feeDenom : String) (messages : List AnyMessage) : Digest :=
  lib.keccak256
    (lib.intentJson address chainId feeDenom
      (messages.map fun message => (message.typeUrl, message.value)))

/-- The coins that a message spends: its deposit or its funds. -/
def messageCoins (message : AnyMessage) : Except String (List Coin) :=
  if message.typeUrl = "/cosmos.gov.v1.MsgSubmitProposal" then
    match lib.proposalDeposit message.value with
    | some coins => .ok coins
    | none => .error "failed to decode Protobuf message"
  else if message.typeUrl = "/cosmwasm.wasm.v1.MsgExecuteContract" then
    match lib.executeFunds message.value with
    | some coins => .ok coins
    | none => .error "failed to decode Protobuf message"
  else
    .error "unsupported deployment message"

/-- Add the coins of one denomination. -/
def addCoins (denom : String) : Nat → List Coin → Except String Nat
  | amount, [] => .ok amount
  | amount, coin :: rest =>
    if coin.denom = denom then
      match parseUnsigned (2 ^ 128) coin.amount with
      | none => .error "invalid digit found in string"
      | some value =>
        if amount + value < 2 ^ 128 then
          addCoins denom (amount + value) rest
        else
          .error "submission funding overflow"
    else
      .error "unsupported deployment payment denomination"

/-- What the messages spend of one denomination. -/
def requiredFunds (denom : String) : Nat → List AnyMessage → Except String Nat
  | amount, [] => .ok amount
  | amount, message :: rest =>
    match messageCoins lib message with
    | .error reason => .error reason
    | .ok coins =>
      match addCoins denom amount coins with
      | .error reason => .error reason
      | .ok total => requiredFunds denom total rest

/-- Check the funds; a proposal is shown for review first. -/
def approveSubmission (lcd feeDenom address : String) (messages : List AnyMessage)
    (fee : Nat) : Deploy Bool := do
  let funds ← attemptValue (requiredFunds lib feeDenom 0 messages)
  Program.ensure (funds + fee < 2 ^ 128) (.failed "submission funding overflow")
  need (.cosmosFunds lcd address feeDenom (funds + fee)) id unavailable
  if messages.any fun message =>
      message.typeUrl = "/cosmos.gov.v1.MsgSubmitProposal" then do
    need (.review "governance parameters") id unavailable
    need (.review "messages") id unavailable
    askOperator
      "Approve this title, description, and payload and submit the governance proposal?"
  else do
    need (.review "messages") id unavailable
    askOperator "Submit this transaction?"

/-- The transaction is signed for the expected sequence number. -/
def validateSequence (raw : Bytes) (expected : Nat) : Except String Unit :=
  match lib.decodeTxRaw raw with
  | none => .error "failed to decode Protobuf message"
  | some tx =>
    match lib.decodeAuthInfo tx.authInfoBytes with
    | none => .error "failed to decode Protobuf message"
    | some auth =>
      if auth.signerInfos.map SignerInfo.sequence = [expected] then
        .ok ()
      else
        .error "recorded Cosmos sequence differs from signed bytes"

/-- The response, if its code is zero. -/
def checkedResponse (response : TxResponse) : Except String TxResponse :=
  if response.code = some 0 then
    .ok response
  else
    .error
      ("recorded Cosmos transaction failed: " ++ response.rawLog ++
        ". A proven failed submission can be reviewed with --retry-failed <step/cosmos>; this does not retry a proposal that was created and later rejected")

/-- Enter the result of an included transaction, and accept it if it succeeded. -/
def recordResponse (hash : Digest) (response : TxResponse) : Deploy TxResponse := do
  Program.ensure (response.txhash = some hash) (.failed "Cosmos receipt hash mismatch")
  let height ← Program.orFail response.height (.failed "missing confirmed Cosmos height")
  Program.ensure (0 < height) (.failed "Cosmos transaction is not included")
  let code ← Program.orFail response.code (.failed "missing Cosmos result code")
  Program.ensure (code < 2 ^ 32)
    (.failed "out of range integral type conversion attempted")
  confirmResult (.cosmos hash) (.cosmos height code response)
  attemptValue (checkedResponse response)

inductive AttemptScan where
  | pending (hashes : List Digest)
  | cached (response : TxResponse)
  deriving DecidableEq

/-- Walk over the attempts of one sequence number until one has a result. -/
def scanAttempts (journal : Journal) (sender : String)
    (sequence : Nat) : List Transaction → Except String AttemptScan
  | [] => .ok (.pending [])
  | .evm _ :: rest => scanAttempts journal sender sequence rest
  | .cosmos tx :: rest =>
    if tx.sender = sender ∧ tx.sequence = sequence then
      if lib.sha256 tx.raw = tx.hash then
        match journal.confirmation (.cosmos tx.hash) with
        | some (.cosmos _ _ response) => .ok (.cached response)
        | _ =>
          match scanAttempts journal sender sequence rest with
          | .ok (.pending hashes) => .ok (.pending (tx.hash :: hashes))
          | other => other
      else
        .error "Cosmos signed bytes do not match hash"
    else
      scanAttempts journal sender sequence rest

/-- The first of some transactions that the node has a result of. -/
def lookupFirst (lcd : String) (hashes : List Digest) : Deploy (Option TxResponse) :=
  Program.firstSome
    (fun hash => do
      let found : Option TxResponse ←
        need (.lookup lcd hash) id
          (.failed "cannot establish Cosmos transaction status")
      match found with
      | none => .done none
      | some response => do
        let accepted ← recordResponse hash response
        .done (some accepted))
    hashes

/-- The archival node of this run, if it is on the planned network. -/
def recoveryLcd (session : Session) : Deploy (Option String) :=
  match session.options.recoveryLcd with
  | none => .done none
  | some lcd => do
    let network : Option String ← need (.nodeInfo lcd) id unavailable
    Program.ensure (network = some session.plan.axelarChainId)
      (.failed "recovery LCD is on a different network")
    .done (some lcd)

/-- The result of a transaction or of one of its fee replacements, if known. -/
def confirmed (session : Session) (lcd : String) (saved : CosmosTransaction)
    (key : ActionKey) : Deploy (Option TxResponse) := do
  let journal ← currentJournal
  let scan ←
    attemptValue
      (scanAttempts lib journal saved.sender saved.sequence (journal.past key ++ [.cosmos saved]))
  match scan with
  | .cached response => do
    let accepted ← attemptValue (checkedResponse response)
    .done (some accepted)
  | .pending hashes => do
    let found ← lookupFirst lcd hashes
    match found with
    | some response => .done (some response)
    | none => do
      let archive ← recoveryLcd session
      match archive with
      | none => .done none
      | some archive => lookupFirst archive hashes

/-- Look for a result a few times after a broadcast. -/
def pollConfirmed (session : Session) (lcd : String) (saved : CosmosTransaction)
    (key : ActionKey) : Nat → Deploy TxResponse
  | 0 =>
    .fail
      (.paused ("Waiting for confirmation of " ++ key.text ++
          ". Axe has saved the signed transaction but has not confirmed its outcome. Wait for a block, then run the continue command to check this transaction again"))
  | rounds + 1 => do
    let found ← confirmed lib session lcd saved key
    match found with
    | some response => .done response
    | none => do
      ask .sleep
      pollConfirmed session lcd saved key rounds

/-- Return the recorded result, or broadcast the recorded transaction again. -/
def resumeCosmos (session : Session) (lcd : String) (saved : CosmosTransaction)
    (key : ActionKey) : Deploy TxResponse := do
  let found ← confirmed lib session lcd saved key
  match found with
  | some response => .done response
  | none => do
    check (validateSequence lib saved.raw saved.sequence)
    let account : Nat × Nat ← need (.queryAccount lcd saved.sender) id unavailable
    Program.ensure (account.2 = saved.sequence)
      (.failed
        "Cosmos transaction is missing and its account sequence is not the recorded one; use --recovery-lcd with a same-network archival LCD. A consumed sequence does not prove success; no transaction was resent")
    let accepted : Bool ← ask (.broadcastTx lcd saved.raw)
    if accepted then
      pollConfirmed lib session lcd saved key 10
    else
      .fail
        (.paused (key.text ++
            ": recorded Cosmos transaction is unresolved. For insufficient fees use --bump-fees --cosmos-fee <total-base-units>; other CheckTx failures require diagnosis before resuming"))

/-- A retry does what the retired attempt did, with a later sequence number. -/
def validateCosmosRetry (journal : Journal) (key : ActionKey) (intent : Digest)
    (sequence : Nat) : Except String Unit :=
  match (journal.past key).getLast? with
  | some (.cosmos previous) =>
    if intent = previous.intent then
      if previous.sequence < sequence then
        .ok ()
      else
        .error
          "retired Cosmos transaction did not consume its sequence; reconcile the account before retrying. No transaction was signed or sent"
    else
      .error "retried Cosmos execution differs from the retired attempt"
  | _ => .ok ()

/-- Sign, record and submit the messages of a step. -/
def sendCosmos (session : Session) (scope : Scope) (wallet : Wallet lib)
    (lcd chainId feeDenom : String) (gasPrice : GasPrice)
    (messages : List AnyMessage) : Deploy TxResponse := do
  Program.ensure (lib.validPrice gasPrice = true) (.failed "invalid gas price")
  Program.ensure (chainId = session.plan.axelarChainId)
    (.failed "Axelar network mismatch")
  let intent := cosmosIntent lib wallet.address chainId feeDenom messages
  let key := ActionKey.cosmos scope.step
  let saved ← getAction key
  match saved with
  | some (.evm _) => .fail (.failed "wrong journal transaction type")
  | some (.cosmos saved) => do
    Program.ensure (saved.intent = intent)
      (.failed "Cosmos transaction intent changed; refusing replacement")
    resumeCosmos lib session lcd saved key
  | none => do
    let account : Nat × Nat ←
      need (.queryAccount lcd wallet.address) id unavailable
    let journal ← currentJournal
    check (validateCosmosRetry journal key intent account.2)
    let input : CosmosTxSignInput :=
      { chainId := chainId
        accountNumber := account.1
        sequence := account.2
        gasLimit := 10000000
        feeAmount := 0
        feeDenom := feeDenom
        messages := messages }
    let simulation ←
      Program.orFail (buildAndSignCosmosTx lib wallet.key input)
        (.failed "invalid denom or chain id")
    let unsigned ←
      Program.orFail (unsignedSimulation lib simulation)
        (.failed "failed to decode Protobuf message")
    let simulated : Option Nat ← ask (.simulateTx lcd unsigned)
    let used ← Program.orFail simulated unavailable
    Program.ensure (used * 3 < 2 ^ 64) (.failed "gas overflow")
    let fee := lib.feeAmount (used * 3) gasPrice
    let journal ← currentJournal
    check (checkFeeBudget session.plan journal wallet.address account.2 fee)
    let approved ←
      approveSubmission lib lcd feeDenom wallet.address messages fee
    if approved then do
      let raw ←
        Program.orFail
          (buildAndSignCosmosTx lib wallet.key
            { input with gasLimit := used * 3, feeAmount := fee })
          (.failed "invalid denom or chain id")
      let saved : CosmosTransaction :=
        { intent := intent
          raw := raw
          hash := lib.sha256 raw
          sender := wallet.address
          fee := decimalText fee
          sequence := account.2 }
      recordAction key (.cosmos saved)
      resumeCosmos lib session lcd saved key
    else
      .fail
        (.paused
          "Transaction declined; it was not submitted. Run the continue command when you are ready to review and approve it.")

/-- The mnemonic that signs a step. -/
def cosmosMnemonic (credentials : Credentials) (step : StepName) : Except String String :=
  let named : Option (String × Option String) :=
    match step with
    | .addRewards => some ("REWARDS_FUNDER_MNEMONIC", credentials.rewardsFunderMnemonic)
    | .waitForVerifierSet => some ("MULTISIG_PROVER_MNEMONIC", credentials.adminMnemonic)
    | .instantiateChainContracts | .registerItsOnHub => some ("MNEMONIC", some credentials.mnemonic)
    | _ => none
  match named with
  | none => .error ("unknown Cosmos signing role for step " ++ step.text)
  | some (name, value) =>
    match value.filter fun value => !value.toList.all Char.isWhitespace with
    | some value => .ok value
    | none =>
      .error
        ("missing " ++ name ++ ": explicitly supply the signer for " ++ step.text)

/-- The fee with a larger amount. -/
def raisedFee (fee : Fee) (old : String) (amount : U128) : Except String Fee :=
  match fee.amount with
  | [coin] =>
    if coin.amount = old then
      match parseUnsigned (2 ^ 128) old with
      | none => .error "invalid digit found in string"
      | some value =>
        if value < amount.toNat then
          .ok { fee with amount := [⟨coin.denom, decimalText amount.toNat⟩] }
        else
          .error "replacement must increase the original single-denomination fee"
    else
      .error "replacement must increase the original single-denomination fee"
  | _ => .error "replacement must increase the original single-denomination fee"

/-- The saved transaction was signed by this key. -/
def replacementSigner (saved : CosmosTransaction) (signer : SigningKey) (tx : TxRaw)
    (auth : AuthInfo) (chain : String) (account : Nat) : Except String Unit :=
  if lib.keyAccount signer = saved.sender ∧ auth.signerInfos.map SignerInfo.publicKey =
        [some (lib.publicKey signer)] ∧
      tx.signatures.length = 1 then
    if tx.signatures.all
        (lib.verify (lib.publicKey signer) (lib.encodeSignDoc
            ⟨tx.bodyBytes, tx.authInfoBytes, chain, account⟩)) then
      if lib.encodeAuthInfo auth = tx.authInfoBytes then
        .ok ()
      else
        .error "unsupported noncanonical Cosmos auth info"
    else
      .error
        "original Cosmos signature does not match chain, account number or signer"
  else
    .error "Cosmos replacement signer mismatch"

/-- Sign a recorded transaction again with a higher fee and nothing else new. -/
def resign (saved : CosmosTransaction) (signer : SigningKey) (chain : String) (account : Nat)
    (amount : U128) : Except String CosmosTransaction :=
  if lib.sha256 saved.raw = saved.hash then
    match lib.decodeTxRaw saved.raw with
    | none => .error "failed to decode Protobuf message"
    | some tx =>
      match lib.decodeAuthInfo tx.authInfoBytes with
      | none => .error "failed to decode Protobuf message"
      | some auth =>
        match validateSequence lib saved.raw saved.sequence with
        | .error message => .error message
        | .ok () =>
          match replacementSigner lib saved signer tx auth chain account with
          | .error message => .error message
          | .ok () =>
            match auth.fee with
            | none => .error "missing fee"
            | some fee =>
              match raisedFee fee saved.fee amount with
              | .error message => .error message
              | .ok fee =>
                let auth := lib.encodeAuthInfo { auth with fee := some fee }
                let signature :=
                  lib.sign signer
                    (lib.encodeSignDoc ⟨tx.bodyBytes, auth, chain, account⟩)
                let raw := lib.encodeTxRaw ⟨tx.bodyBytes, auth, [signature]⟩
                .ok
                  { saved with
                    hash := lib.sha256 raw
                    raw := raw
                    fee := decimalText amount.toNat }
  else
    .error "signed bytes mismatch"

/-- The denomination of the fee and the messages of a transaction. -/
def replacementDetails (raw : Bytes) : Except String (String × List AnyMessage) :=
  match lib.decodeTxRaw raw with
  | none => .error "failed to decode Protobuf message"
  | some tx =>
    match lib.decodeAuthInfo tx.authInfoBytes with
    | none => .error "failed to decode Protobuf message"
    | some auth =>
      match auth.fee with
      | none => .error "missing fee"
      | some fee =>
        match fee.amount.head?, lib.decodeTxBody tx.bodyBytes with
        | some coin, some body => .ok (coin.denom, body.messages)
        | _, _ => .error "failed to decode Protobuf message"

/-- Replace a recorded transaction by one with a higher fee. -/
def bumpCosmos (session : Session) (lcd : String) (key : ActionKey)
    (saved : CosmosTransaction) : Deploy Unit := do
  let found ← confirmed lib session lcd saved key
  match found with
  | some _ => .done ()
  | none => do
    let account : Nat × Nat ← need (.queryAccount lcd saved.sender) id unavailable
    Program.ensure (account.2 = saved.sequence)
      (.failed (key.text ++
          ": sequence consumed or unavailable; recover all attempt receipts before replacing"))
    Program.ensure (key.label = .cosmos) (.failed "invalid Cosmos action key")
    let state ← currentState
    let mnemonic ← attemptValue (cosmosMnemonic state.credentials key.step)
    let signer ←
      Program.orFail (lib.deriveKey mnemonic) (.failed "invalid mnemonic")
    let amount ←
      Program.orFail session.options.cosmosFee
        (.failed "supply --cosmos-fee in total base units")
    let replacement ←
      attemptValue
        (resign lib saved signer session.plan.axelarChainId account.1 amount)
    let details ← attemptValue (replacementDetails lib replacement.raw)
    let journal ← currentJournal
    check
      (checkFeeBudget session.plan journal saved.sender saved.sequence amount.toNat)
    let funds ← attemptValue (requiredFunds lib details.1 0 details.2)
    Program.ensure (funds + amount.toNat < 2 ^ 128) (.failed "funding overflow")
    need (.cosmosFunds lcd saved.sender details.1 (funds + amount.toNat)) id unavailable
    need (.review "messages") id unavailable
    let approved ← askOperator "Approve this same-sequence, fee-only replacement?"
    if approved then do
      replaceAction key (.cosmos replacement)
      let _ ← resumeCosmos lib session lcd replacement key
      .done ()
    else
      .fail (.paused "Cosmos fee replacement declined")

/-- Raise the fee of a recorded transaction if that is asked for, or resume it. -/
def reconcileCosmos (session : Session) (key : ActionKey) (saved : Transaction)
    (lcd : String) : Deploy Unit :=
  match saved with
  | .evm _ => .done ()
  | .cosmos saved =>
    if session.options.bumpFees = some key.text then
      bumpCosmos lib session lcd key saved
    else do
      let _ ← resumeCosmos lib session lcd saved key
      .done ()

end Axe.Hardened

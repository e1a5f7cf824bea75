import Axe.HexText
import Axe.DecimalText
import Mathlib.Algebra.Order.Ring.Rat

namespace Axe.Express

/-!
# Express transfers and their reimbursement

An express executor pays a transfer in advance and gets the amount back when the
transfer is executed.  The watch reads the record that the API keeps of a transfer,
in which the two transactions and their receipts appear one after the other, and
compares what the executor sent with what it received.
-/

/-! ## Transfers in a receipt -/

/-- Slicing a text inside a character stops the program. -/
inductive Panic where
  | notCharBoundary
  deriving DecidableEq

/-- A log as the indexer reports it. -/
structure Log where
  topics : List String
  data : String
  deriving DecidableEq

/-- A receipt as the indexer reports it. -/
structure Receipt where
  sender : Option String
  logs : List Log
  deriving DecidableEq

/-- A transfer of a token. -/
structure Erc20Transfer where
  sender : List UInt8
  recipient : List UInt8
  amount : BitVec 256
  deriving DecidableEq

/-- The first topic of a transfer event. -/
def transferTopic0 : String := "0xddf252ad1be2c89b69c2b068fc378daa952ba7f163c4a11628f55a4df523b3ef"

/-- The length of a text in bytes. -/
def byteLength : List Char → Nat
  | [] => 0
  | char :: rest => char.utf8Size + byteLength rest

/-- The text from a byte on; an index inside a character panics. -/
def sliceFrom : Nat → List Char → Except Panic (List Char)
  | 0, chars => .ok chars
  | _ + 1, [] => .error .notCharBoundary
  | start + 1, char :: rest =>
    if char.utf8Size ≤ start + 1 then
      sliceFrom (start + 1 - char.utf8Size) rest
    else
      .error .notCharBoundary

/-- An address in hex, with or without its prefix. -/
def parseAddress (text : String) : Option (List UInt8) :=
  (hexDecodeLoose text).filter fun bytes => bytes.length = 20

/-- The address at the end of a topic. -/
def topicAddress (topic : String) : Except Panic (Option (List UInt8)) :=
  let hex := ((afterStart "0x" topic).getD topic).toList
  if byteLength hex < 40 then
    .ok none
  else
    match sliceFrom (byteLength hex - 40) hex with
    | .ok digits => .ok (parseAddress ("0x" ++ String.ofList digits))
    | .error panic => .error panic

/-- The number that hex digits stand for. -/
def hexValue : List Char → Nat → Option Nat
  | [], value => some value
  | char :: rest, value =>
    if char = '_' then
      hexValue rest value
    else
      match hexDigitValue char with
      | some digit => if 16 * value + digit < 2 ^ 256 then hexValue rest (16 * value + digit) else none
      | none => none

/-- The amount in the data of a log. -/
def hexU256 (data : String) : Option (BitVec 256) :=
  (hexValue ((afterStart "0x" data).getD data).toList 0).map (BitVec.ofNat 256)

/-- The transfer that a log reports, if it is one. -/
def erc20Transfer (log : Log) : Except Panic (Option Erc20Transfer) :=
  match log.topics with
  | topic0 :: sender :: recipient :: _ =>
    if eqIgnoreAsciiCase topic0 transferTopic0 then
      match topicAddress sender with
      | .error panic => .error panic
      | .ok none => .ok none
      | .ok (some sender) =>
        match topicAddress recipient with
        | .error panic => .error panic
        | .ok none => .ok none
        | .ok (some recipient) =>
          .ok ((hexU256 log.data).map fun amount => ⟨sender, recipient, amount⟩)
    else
      .ok none
  | _ => .ok none

/-- The transfers of all logs. -/
def erc20Transfers : List Log → Except Panic (List Erc20Transfer)
  | [] => .ok []
  | log :: rest =>
    match erc20Transfer log with
    | .error panic => .error panic
    | .ok found =>
      match erc20Transfers rest with
      | .error panic => .error panic
      | .ok transfers => .ok (found.toList ++ transfers)

/-- The wrapping sum of the kept transfers, if there are any. -/
def sumTransfers (transfers : List Erc20Transfer) (keep : Erc20Transfer → Bool) :
    Option (BitVec 256) :=
  (transfers.filter keep).foldl (fun total transfer => some (total.getD 0 + transfer.amount)) none

/-! ## The record of a transfer -/

structure ExpressExecuted where
  transactionHash : Option String
  contractAddress : Option String
  sender : Option String
  receipt : Option Receipt
  deriving DecidableEq

structure Executed where
  transactionHash : Option String
  receipt : Option Receipt
  deriving DecidableEq

structure ExpressErrorDetail where
  reason : Option String
  message : Option String
  deriving DecidableEq

structure GasInfo where
  gasPaidAmount : Option Rat
  gasBaseFeeAmount : Option Rat
  gasRemainAmount : Option Rat
  deriving DecidableEq

/-- The record of a message, as far as the watch reads it. -/
structure ExpressRecord where
  expressExecuted : Option ExpressExecuted
  executed : Option Executed
  notToExpressExecute : Option Bool
  expressError : Option (Option ExpressErrorDetail)
  gas : Option GasInfo
  deriving DecidableEq

/-- The sender of the receipt, or the one that the record names. -/
def ExpressExecuted.relayerEoa (express : ExpressExecuted) : Option String :=
  (express.receipt.bind Receipt.sender).or express.sender

/-- The text without white space at its ends. -/
def trimmed (text : String) : String :=
  String.ofList
    ((text.toList.dropWhile isWhiteSpace).reverse.dropWhile isWhiteSpace).reverse

/-- The text of a reported error, if it has one. -/
def errorText (error : Option ExpressErrorDetail) : Option String :=
  error.bind fun detail =>
    ((detail.reason.or detail.message).map trimmed).filter fun text => text ≠ ""

/-- The express call. -/
inductive Phase1 where
  | executed (executorEoa executorContract expressTx : Option String)
  | notObserved
  deriving DecidableEq

/-- The reimbursement. -/
inductive Phase2 where
  | reimbursed (executeTx : Option String)
  | pending
  | notApplicable
  deriving DecidableEq

/-- The result of a comparison of amounts. -/
inductive AmountCheck where
  | exactMatch (amount : BitVec 256)
  | mismatch (fronted reimbursed : BitVec 256)
  | missingInbound (fronted : BitVec 256)
  | noFrontedTransfer
  deriving DecidableEq

/-- The verdict of the watch. -/
inductive WatchOutcome where
  | notIndexed
  | refused (reason : String)
  | awaitingExpressExecution
  | awaitingReimbursement
  | reimbursed
  | reimbursementShort (reason : String)
  deriving DecidableEq

/-- The watch ends with this outcome. -/
def WatchOutcome.isTerminal : WatchOutcome → Bool
  | .refused _ | .reimbursed | .reimbursementShort _ => true
  | _ => false

/-- Equal outcomes, up to the text of a refusal or a shortfall. -/
def WatchOutcome.SameKind : WatchOutcome → WatchOutcome → Prop
  | .refused _, .refused _ => True
  | .reimbursementShort _, .reimbursementShort _ => True
  | first, second => first = second

/-- How far the express call and its reimbursement are. -/
def ExpressRecord.phaseStatus (record : ExpressRecord) : Phase1 × Phase2 :=
  match record.expressExecuted with
  | none => (.notObserved, .notApplicable)
  | some express =>
    (.executed express.relayerEoa express.contractAddress express.transactionHash,
      match record.executed with
      | some executed => .reimbursed executed.transactionHash
      | none => .pending)

/-- What the executor paid, against what it got back. -/
def compareAmounts (executor : List UInt8) (express execute : Receipt) : Except Panic AmountCheck :=
  match erc20Transfers express.logs with
  | .error panic => .error panic
  | .ok sent =>
    match sumTransfers sent (fun transfer => transfer.sender = executor) with
    | none => .ok .noFrontedTransfer
    | some fronted =>
      match erc20Transfers execute.logs with
      | .error panic => .error panic
      | .ok received =>
        match sumTransfers received (fun transfer => transfer.recipient = executor) with
        | none => .ok (.missingInbound fronted)
        | some reimbursed =>
          if reimbursed = fronted then .ok (.exactMatch fronted)
          else .ok (.mismatch fronted reimbursed)

/-- What is compared: the executor and both receipts. -/
def ExpressRecord.compared (record : ExpressRecord) : Option (List UInt8 × Receipt × Receipt) :=
  record.expressExecuted.bind fun express =>
    (express.relayerEoa.bind parseAddress).bind fun executor =>
      express.receipt.bind fun expressReceipt =>
        (record.executed.bind Executed.receipt).map fun executeReceipt =>
          (executor, expressReceipt, executeReceipt)

/-- The check of the amounts, once both receipts are there. -/
def ExpressRecord.reimbursementAmountCheck (record : ExpressRecord) :
    Except Panic (Option AmountCheck) :=
  match record.compared with
  | none => .ok none
  | some (executor, express, execute) => (compareAmounts executor express execute).map some

/-- Why the amounts are not accepted. -/
def amountCheckFailure : Option AmountCheck → Option String
  | some (.mismatch fronted reimbursed) =>
    some ("fronted " ++ decimalText fronted.toNat ++ " != reimbursed " ++
      decimalText reimbursed.toNat ++ " (base units)")
  | some (.missingInbound fronted) =>
    some ("executor fronted " ++ decimalText fronted.toNat ++
      " (base units) but no inbound transfer in the execute tx")
  | _ => none

section Watch

-- How a gas amount is shown is up to the formatter.
variable (shown : Rat → String)

/-- Why the call is not executed in advance. -/
def ExpressRecord.expressRefusal (record : ExpressRecord) : Option String :=
  if record.notToExpressExecute ≠ some true then
    none
  else
    match record.expressError.bind errorText with
    | some text => some ("the express transaction failed: " ++ text)
    | none =>
      match record.gas with
      | some ⟨paid, base, some remain⟩ =>
        if remain ≤ 0 then
          some ("no gas left to cover the destination execute" ++
            match paid, base with
            | some paid, some base =>
              " (gas paid " ++ shown paid ++ " against a " ++ shown base ++ " base fee)"
            | _, _ => "")
        else
          some "the GMP API marked it not_to_express_execute"
      | _ => some "the GMP API marked it not_to_express_execute"

/-- The verdict on a record as it is now. -/
def watchOnce (found : Option ExpressRecord) : Except Panic WatchOutcome :=
  match found with
  | none => .ok .notIndexed
  | some record =>
    match record.expressRefusal shown with
    | some reason => .ok (.refused reason)
    | none =>
      match record.phaseStatus with
      | (.notObserved, _) => .ok .awaitingExpressExecution
      | (.executed .., .reimbursed _) =>
        match record.reimbursementAmountCheck with
        | .error panic => .error panic
        | .ok check =>
          match amountCheckFailure check with
          | some reason => .ok (.reimbursementShort reason)
          | none => .ok .reimbursed
      | (.executed .., _) => .ok .awaitingReimbursement

/-- What the monitor does next. -/
inductive MonitorStep where
  | waits
  | fails (message : String)
  | reimbursedInFull
  deriving DecidableEq

/-- One round of the watch, with the timeout. -/
def pollSingleTx (timeout elapsed : String) (late : Bool) (found : Option ExpressRecord) :
    Except Panic MonitorStep :=
  match found with
  | none =>
    .ok (if late then .fails ("tx never indexed by the GMP API within " ++ timeout ++
      "s: the source call landed but Axelar never picked it up") else .waits)
  | some record =>
    match record.expressRefusal shown with
    | some reason => .ok (.fails ("express execution was ruled out: " ++ reason))
    | none =>
      match record.phaseStatus with
      | (.notObserved, _) =>
        .ok (if late then .fails ("no express execution observed within " ++ timeout ++ "s (" ++
          elapsed ++ ")") else .waits)
      | (.executed .., .reimbursed _) =>
        match record.reimbursementAmountCheck with
        | .error panic => .error panic
        | .ok check =>
          match amountCheckFailure check with
          | some reason => .ok (.fails ("express reimbursement amount check failed: " ++ reason))
          | none => .ok .reimbursedInFull
      | (.executed .., _) =>
        .ok (if late then .fails ("express executor fronted the funds but was not reimbursed within "
          ++ timeout ++ "s: canonical execute never observed (" ++ elapsed ++ ")") else .waits)

end Watch

/-! ## What the answers should mean -/

/-- The transfers of a receipt. -/
def transfersIn (receipt : Receipt) : List Erc20Transfer :=
  receipt.logs.filterMap fun log =>
    match erc20Transfer log with
    | .ok found => found
    | .error _ => none

/-- The transfers from the executor. -/
def outbound (executor : List UInt8) (receipt : Receipt) : List Erc20Transfer :=
  (transfersIn receipt).filter fun transfer => transfer.sender = executor

/-- The transfers to the executor. -/
def inbound (executor : List UInt8) (receipt : Receipt) : List Erc20Transfer :=
  (transfersIn receipt).filter fun transfer => transfer.recipient = executor

/-- The sum of some transfers as a number. -/
def exactSum : List Erc20Transfer → Nat
  | [] => 0
  | transfer :: rest => transfer.amount.toNat + exactSum rest

/-- The transfers to the executor total what it paid for the express execution. -/
def PaidBack (record : ExpressRecord) : Prop :=
  ∃ executor express execute, record.compared = some (executor, express, execute) ∧
    exactSum (outbound executor express) = exactSum (inbound executor execute)

/-- Both receipts are there, and what was paid back is something else, or nothing. -/
def PaidShort (record : ExpressRecord) : Prop :=
  ∃ executor express execute, record.compared = some (executor, express, execute) ∧
    (exactSum (outbound executor express) ≠ exactSum (inbound executor execute) ∨
      inbound executor execute = [])

/-- Once there is a value it stays. -/
def Settles {Value : Type} (earlier later : Option Value) : Prop :=
  ∀ value, earlier = some value → later = some value

/-- A later record has all that the earlier one has. -/
structure Extends (earlier later : ExpressRecord) : Prop where
  express : ∀ first, earlier.expressExecuted = some first →
    ∃ second, later.expressExecuted = some second ∧ Settles first.receipt second.receipt ∧
      Settles first.sender second.sender
  executed : ∀ first, earlier.executed = some first →
    ∃ second, later.executed = some second ∧ Settles first.receipt second.receipt
  refusal : Settles earlier.notToExpressExecute later.notToExpressExecute

/-- All topics are plain ASCII. -/
def Receipt.Plain (receipt : Receipt) : Prop :=
  ∀ log ∈ receipt.logs, ∀ topic ∈ log.topics, ∀ char ∈ topic.toList, char.utf8Size = 1

/-- A record with both transactions can be judged: it has what the comparison needs, the
    sums fit their type, and express execution is not ruled out. -/
structure Judgeable (record : ExpressRecord) : Prop where
  complete : record.expressExecuted.isSome → record.executed.isSome → record.compared.isSome
  plain : ∀ executor express execute, record.compared = some (executor, express, execute) →
    express.Plain ∧ execute.Plain
  fronted : ∀ executor express execute, record.compared = some (executor, express, execute) →
    outbound executor express ≠ []
  fits : ∀ executor express execute, record.compared = some (executor, express, execute) →
    exactSum (outbound executor express) < 2 ^ 256 ∧ exactSum (inbound executor execute) < 2 ^ 256
  unrefused : record.expressExecuted.isSome → record.executed.isSome →
    record.notToExpressExecute ≠ some true

/-! ## Reading the receipts -/

theorem sliceFrom_of_plain
    {chars : List Char}
    (plain : ∀ char ∈ chars, char.utf8Size = 1)
    {start : Nat}
    (inside : start ≤ byteLength chars) :
    ∃ rest, sliceFrom start chars = .ok rest := by
  induction chars generalizing start with
  | nil =>
    have zero : start = 0 := Nat.le_zero.mp inside
    exact ⟨[], by simp [zero, sliceFrom]⟩
  | cons char rest ih =>
    have one : char.utf8Size = 1 := plain char List.mem_cons_self
    cases start with
    | zero => exact ⟨char :: rest, rfl⟩
    | succ start =>
      have shorter : start ≤ byteLength rest := by
        simp only [byteLength, one] at inside
        omega
      simp only [sliceFrom, one, Nat.le_add_left, if_true, Nat.add_sub_cancel]
      exact ih (fun other member => plain other (List.mem_cons_of_mem _ member))
        shorter

theorem afterStart_plain {start text : String} (plain : ∀ char ∈ text.toList, char.utf8Size = 1) :
    ∀ char ∈ ((afterStart start text).getD text).toList, char.utf8Size = 1 := by
  unfold afterStart
  split
  · intro char member
    simp only [Option.getD_some, String.toList_ofList] at member
    exact plain char (List.mem_of_mem_drop member)
  · simpa using plain

theorem topicAddress_of_plain {topic : String} (plain : ∀ char ∈ topic.toList, char.utf8Size = 1) :
    ∃ address, topicAddress topic = .ok address := by
  unfold topicAddress
  by_cases short : byteLength ((afterStart "0x" topic).getD topic).toList < 40
  · exact ⟨none, if_pos short⟩
  · obtain ⟨digits, sliced⟩ :=
      sliceFrom_of_plain (afterStart_plain plain)
        (Nat.sub_le (byteLength ((afterStart "0x" topic).getD topic).toList) 40)
    simp only [if_neg short, sliced]
    exact ⟨_, rfl⟩

theorem erc20Transfer_of_plain {log : Log}
    (plain : ∀ topic ∈ log.topics, ∀ char ∈ topic.toList, char.utf8Size = 1) :
    ∃ found, erc20Transfer log = .ok found := by
  obtain ⟨topics, data⟩ := log
  rcases topics with _ | ⟨topic0, _ | ⟨sender, _ | ⟨recipient, others⟩⟩⟩
  · exact ⟨none, rfl⟩
  · exact ⟨none, rfl⟩
  · exact ⟨none, rfl⟩
  · obtain ⟨first, senderRead⟩ := topicAddress_of_plain (plain sender (by simp))
    obtain ⟨second, recipientRead⟩ := topicAddress_of_plain (plain recipient (by simp))
    simp only [erc20Transfer, senderRead, recipientRead]
    split
    · cases first <;> cases second <;> exact ⟨_, rfl⟩
    · exact ⟨none, rfl⟩

theorem erc20Transfers_of_plain {receipt : Receipt} (plain : receipt.Plain) :
    erc20Transfers receipt.logs = .ok (transfersIn receipt) := by
  obtain ⟨sender, logs⟩ := receipt
  simp only [transfersIn, Receipt.Plain] at plain ⊢
  induction logs with
  | nil => rfl
  | cons log rest ih =>
    obtain ⟨found, read⟩ := erc20Transfer_of_plain (plain log List.mem_cons_self)
    have later := ih fun other member => plain other (List.mem_cons_of_mem _ member)
    simp only [erc20Transfers, read, later, List.filterMap_cons]
    cases found <;> rfl

theorem foldl_amounts (transfers : List Erc20Transfer) (total : BitVec 256) :
    transfers.foldl (fun total transfer => some (total.getD 0 + transfer.amount)) (some total) =
      some (total + BitVec.ofNat 256 (exactSum transfers)) := by
  induction transfers generalizing total with
  | nil => simp [exactSum]
  | cons transfer rest ih =>
    simp only [List.foldl_cons, Option.getD_some, ih, exactSum,
      BitVec.ofNat_add, BitVec.ofNat_toNat, BitVec.setWidth_eq, BitVec.add_assoc]

theorem sumTransfers_eq (transfers : List Erc20Transfer) (keep : Erc20Transfer → Bool) :
    sumTransfers transfers keep =
      if transfers.filter keep = [] then none
      else some (BitVec.ofNat 256 (exactSum (transfers.filter keep))) := by
  unfold sumTransfers
  cases kept : transfers.filter keep with
  | nil => rfl
  | cons transfer rest =>
    have summed := foldl_amounts rest transfer.amount
    have first : (none : Option (BitVec 256)).getD 0 + transfer.amount = transfer.amount := by simp
    rw [List.foldl_cons, first, summed, if_neg (List.cons_ne_nil _ _)]
    simp only [exactSum, BitVec.ofNat_add, BitVec.ofNat_toNat, BitVec.setWidth_eq]

theorem ofNat_eq_iff {first second : Nat} (small : first < 2 ^ 256) (other : second < 2 ^ 256) :
    BitVec.ofNat 256 first = BitVec.ofNat 256 second ↔ first = second := by
  constructor
  · intro same
    have values := congrArg BitVec.toNat same
    rwa [BitVec.toNat_ofNat, BitVec.toNat_ofNat, Nat.mod_eq_of_lt small,
      Nat.mod_eq_of_lt other] at values
  · exact congrArg _

/-! ## What an answer says -/

variable {executor : List UInt8}

theorem compareAmounts_spec {express execute : Receipt} (expressPlain : express.Plain)
    (executePlain : execute.Plain) (fronted : outbound executor express ≠ [])
    (sentFits : exactSum (outbound executor express) < 2 ^ 256)
    (receivedFits : exactSum (inbound executor execute) < 2 ^ 256) :
    ∃ check, compareAmounts executor express execute = .ok check ∧
      (amountCheckFailure (some check) = none →
        exactSum (outbound executor express) = exactSum (inbound executor execute)) ∧
      (∀ reason, amountCheckFailure (some check) = some reason →
        exactSum (outbound executor express) ≠ exactSum (inbound executor execute) ∨
          inbound executor execute = []) := by
  have sent := sumTransfers_eq (transfersIn express) fun transfer => transfer.sender = executor
  have received :=
    sumTransfers_eq (transfersIn execute) fun transfer => transfer.recipient = executor
  rw [← outbound, if_neg fronted] at sent
  rw [← inbound] at received
  simp only [compareAmounts, erc20Transfers_of_plain expressPlain,
    erc20Transfers_of_plain executePlain, sent, received]
  by_cases nothing : inbound executor execute = []
  · rw [if_pos nothing]
    exact ⟨_, rfl, fun passes => by simp [amountCheckFailure] at passes, fun _ _ => .inr nothing⟩
  · rw [if_neg nothing]
    by_cases same :
        exactSum (inbound executor execute) = exactSum (outbound executor express)
    · simp only [(ofNat_eq_iff receivedFits sentFits).mpr same, if_true]
      exact ⟨_, rfl, fun _ => same.symm, fun _ fails => by simp [amountCheckFailure] at fails⟩
    · simp only [mt (ofNat_eq_iff receivedFits sentFits).mp same, if_false]
      exact ⟨_, rfl, fun passes => by simp [amountCheckFailure] at passes,
        fun _ _ => .inl fun equal => same equal.symm⟩

variable {shown : Rat → String} {record : ExpressRecord}

theorem expressRefusal_eq_none :
    record.expressRefusal shown = none ↔ record.notToExpressExecute ≠ some true := by
  unfold ExpressRecord.expressRefusal
  split
  · rename_i free
    exact iff_of_true rfl free
  · rename_i ruled
    apply iff_of_false _ ruled
    split
    · simp
    · split
      · split <;> simp
      · simp

theorem watchOnce_cases {shown : Rat → String} {record : ExpressRecord}
    (judgeable : Judgeable record) :
    (record.notToExpressExecute = some true ∧
      ∃ reason, watchOnce shown (some record) = .ok (.refused reason)) ∨
    ((record.expressExecuted = none ∨ record.executed = none) ∧
      ∃ outcome, watchOnce shown (some record) = .ok outcome ∧ outcome.isTerminal = false) ∨
    (record.notToExpressExecute ≠ some true ∧ ∃ executor express execute check,
        record.compared = some (executor, express, execute) ∧
        compareAmounts executor express execute = .ok check ∧
        watchOnce shown (some record) = .ok (match amountCheckFailure (some check) with
            | some reason => .reimbursementShort reason
            | none => .reimbursed)) := by
  by_cases ruled : record.notToExpressExecute = some true
  · have refused : record.expressRefusal shown ≠ none := fun free =>
      expressRefusal_eq_none.mp free ruled
    obtain ⟨reason, given⟩ := Option.ne_none_iff_exists'.mp refused
    exact .inl ⟨ruled, reason, by simp only [watchOnce, given]⟩
  · have free : record.expressRefusal shown = none := expressRefusal_eq_none.mpr ruled
    cases first : record.expressExecuted with
    | none =>
      exact .inr (.inl ⟨.inl rfl, _,
        by simp only [watchOnce, free, ExpressRecord.phaseStatus, first]; rfl, rfl⟩)
    | some advance =>
      cases second : record.executed with
      | none =>
        exact .inr (.inl ⟨.inr rfl, _,
          by simp only [watchOnce, free, ExpressRecord.phaseStatus, first, second]; rfl, rfl⟩)
      | some paid =>
        have complete := judgeable.complete (by simp [first]) (by simp [second])
        obtain ⟨⟨executor, express, execute⟩, compared⟩ := Option.isSome_iff_exists.mp complete
        obtain ⟨expressPlain, executePlain⟩ := judgeable.plain _ _ _ compared
        obtain ⟨sentFits, receivedFits⟩ := judgeable.fits _ _ _ compared
        obtain ⟨check, judged, -, -⟩ :=
          compareAmounts_spec expressPlain executePlain (judgeable.fronted _ _ _ compared) sentFits
            receivedFits
        refine .inr (.inr ⟨ruled, executor, express, execute, check, compared, judged, ?_⟩)
        simp only [watchOnce, free, ExpressRecord.phaseStatus, first, second,
          ExpressRecord.reimbursementAmountCheck, compared, judged, Except.map]
        cases amountCheckFailure (some check) <;> rfl

theorem compared_eq_some {expressReceipt executeReceipt : Receipt} :
    record.compared = some (executor, expressReceipt, executeReceipt) ↔
      ∃ express text executed, record.expressExecuted = some express ∧
        express.relayerEoa = some text ∧ parseAddress text = some executor ∧
        express.receipt = some expressReceipt ∧ record.executed = some executed ∧
        executed.receipt = some executeReceipt := by
  simp only [ExpressRecord.compared, Option.bind_eq_some_iff, Option.map_eq_some_iff, Prod.mk.injEq]
  constructor
  · rintro ⟨express, present, _, ⟨text, named, parsed⟩, _, sent, _, ⟨executed, paid, received⟩,
      rfl, rfl, rfl⟩
    exact ⟨express, text, executed, present, named, parsed, sent, paid, received⟩
  · rintro ⟨express, text, executed, present, named, parsed, sent, paid, received⟩
    exact ⟨express, present, _, ⟨text, named, parsed⟩, _, sent, _, ⟨executed, paid, received⟩,
      rfl, rfl, rfl⟩

variable {earlier later : ExpressRecord}

theorem Extends.compared (grows : Extends earlier later) {express execute : Receipt}
    (found : earlier.compared = some (executor, express, execute)) :
    later.compared = some (executor, express, execute) := by
  obtain ⟨first, text, paid, present, named, parsed, sent, executed, received⟩ :=
    compared_eq_some.mp found
  obtain ⟨second, still, receipt, sender⟩ := grows.express first present
  obtain ⟨other, stillPaid, otherReceipt⟩ := grows.executed paid executed
  have sameSent := receipt express sent
  have sameName : second.relayerEoa = some text := by
    simp only [ExpressExecuted.relayerEoa, sent, sameSent, Option.bind_some] at named ⊢
    cases signed : express.sender with
    | none =>
      rw [signed, Option.none_or] at named
      rw [Option.none_or, sender text named]
    | some name => simpa [signed] using named
  exact compared_eq_some.mpr ⟨second, text, other, still, sameName, parsed, sameSent, stillPaid,
    otherReceipt execute received⟩

/-- What the monitor does with an outcome, given whether its time is over. -/
def monitorStep (timeout elapsed : String) (late : Bool) : WatchOutcome → MonitorStep
  | .notIndexed =>
    if late then .fails ("tx never indexed by the GMP API within " ++ timeout ++
      "s: the source call landed but Axelar never picked it up") else .waits
  | .refused reason => .fails ("express execution was ruled out: " ++ reason)
  | .awaitingExpressExecution =>
    if late then .fails ("no express execution observed within " ++ timeout ++ "s (" ++
      elapsed ++ ")") else .waits
  | .awaitingReimbursement =>
    if late then .fails ("express executor fronted the funds but was not reimbursed within "
      ++ timeout ++ "s: canonical execute never observed (" ++ elapsed ++ ")") else .waits
  | .reimbursed => .reimbursedInFull
  | .reimbursementShort reason => .fails ("express reimbursement amount check failed: " ++ reason)

theorem pollSingleTx_eq (shown : Rat → String) (timeout elapsed : String) (late : Bool)
    (found : Option ExpressRecord) :
    pollSingleTx shown timeout elapsed late found =
      (watchOnce shown found).map (monitorStep timeout elapsed late) := by
  cases found with
  | none => rfl
  | some record =>
    simp only [pollSingleTx, watchOnce]
    cases record.expressRefusal shown with
    | some reason => rfl
    | none =>
      rcases record.phaseStatus with ⟨_ | _, _ | _ | _⟩ <;> try rfl
      cases record.reimbursementAmountCheck with
      | error panic => rfl
      | ok check =>
        simp only []
        cases amountCheckFailure check <;> rfl

variable {outcome : WatchOutcome}

theorem monitorStep_eq_reimbursedInFull {timeout elapsed : String} {late : Bool}
    (full : monitorStep timeout elapsed late outcome = .reimbursedInFull) :
    outcome = .reimbursed := by
  cases outcome <;> cases late <;> simp_all [monitorStep]

theorem watchOnce_sound {shown : Rat → String} {record : ExpressRecord}
    (judgeable : Judgeable record) :
    (∃ outcome, watchOnce shown (some record) = .ok outcome) ∧
      (watchOnce shown (some record) = .ok .reimbursed → PaidBack record) ∧
      (∀ reason, watchOnce shown (some record) = .ok (.reimbursementShort reason) →
        PaidShort record) := by
  rcases @watchOnce_cases shown _ judgeable with
    ⟨-, reason, answer⟩ | ⟨-, outcome, answer, waits⟩ |
    ⟨-, executor, express, execute, check, compared, judged, answer⟩
  · simp [answer]
  · refine ⟨⟨outcome, answer⟩, ?_, ?_⟩
    · intro full
      rw [Except.ok.inj (answer.symm.trans full)] at waits
      exact absurd waits (by decide)
    · intro reason short
      rw [Except.ok.inj (answer.symm.trans short)] at waits
      exact absurd waits (by simp [WatchOutcome.isTerminal])
  · obtain ⟨expressPlain, executePlain⟩ := judgeable.plain _ _ _ compared
    obtain ⟨sentFits, receivedFits⟩ := judgeable.fits _ _ _ compared
    obtain ⟨verdict, same, passes, fails⟩ :=
      compareAmounts_spec expressPlain executePlain (judgeable.fronted _ _ _ compared) sentFits
        receivedFits
    obtain rfl : verdict = check := Except.ok.inj (same.symm.trans judged)
    refine ⟨⟨_, answer⟩, ?_, ?_⟩
    · intro full
      have verdictPasses : amountCheckFailure (some verdict) = none := by
        cases failure : amountCheckFailure (some verdict) with
        | none => rfl
        | some reason => simp [answer, failure] at full
      exact ⟨executor, express, execute, compared, passes verdictPasses⟩
    · intro reason short
      cases failure : amountCheckFailure (some verdict) with
      | none => simp [answer, failure] at short
      | some text => exact ⟨executor, express, execute, compared, fails text failure⟩

theorem watchOnce_final (grows : Extends earlier later) (first : Judgeable earlier)
    (second : Judgeable later) (answer : watchOnce shown (some earlier) = .ok outcome)
    (terminal : outcome.isTerminal = true) :
    ∃ next, watchOnce shown (some later) = .ok next ∧ outcome.SameKind next := by
  rcases @watchOnce_cases shown _ first with
    ⟨ruled, reason, refused⟩ | ⟨-, waiting, waits, open'⟩ |
    ⟨-, executor, express, execute, check, compared, judged, decided⟩
  · obtain rfl := Except.ok.inj (refused.symm.trans answer)
    have still : later.notToExpressExecute = some true := grows.refusal true ruled
    have refusal : later.expressRefusal shown ≠ none := fun free =>
      expressRefusal_eq_none.mp free still
    obtain ⟨text, given⟩ := Option.ne_none_iff_exists'.mp refusal
    exact ⟨.refused text, by simp only [watchOnce, given], trivial⟩
  · rw [Except.ok.inj (waits.symm.trans answer), terminal] at open'
    exact absurd open' (by decide)
  · have same := grows.compared compared
    obtain ⟨advance, _, paid, present, -, -, -, executed, -⟩ := compared_eq_some.mp same
    rcases @watchOnce_cases shown _ second with
      ⟨ruled, -⟩ | ⟨absent, -⟩ | ⟨-, _, _, _, other, comparedAgain, judgedAgain, decidedAgain⟩
    · exact absurd ruled (second.unrefused (by simp [present]) (by simp [executed]))
    · simp [present, executed] at absent
    · obtain ⟨rfl, rfl, rfl⟩ : _ ∧ _ ∧ _ := by
        simpa only [Option.some.injEq, Prod.mk.injEq] using comparedAgain.symm.trans same
      obtain rfl : other = check := Except.ok.inj (judgedAgain.symm.trans judged)
      obtain rfl := Except.ok.inj (decided.symm.trans answer)
      refine ⟨_, decidedAgain, ?_⟩
      cases amountCheckFailure (some other) <;> simp [WatchOutcome.SameKind]

/-- In records that grow and can be judged, no answer panics, an answer says what the
    receipts say, and a terminal one is final. -/
theorem express_verdicts_are_sound_and_final
    (shown : Rat → String)
    {records : List ExpressRecord}
    (grows : records.Pairwise Extends)
    (judgeable : ∀ record ∈ records, Judgeable record) :
    (∀ record ∈ records, (∃ outcome, watchOnce shown (some record) = .ok outcome) ∧
      (∀ timeout elapsed late,
        ∃ step, pollSingleTx shown timeout elapsed late (some record) = .ok step) ∧
      (watchOnce shown (some record) = .ok .reimbursed → PaidBack record) ∧
      (∀ timeout elapsed late,
        pollSingleTx shown timeout elapsed late (some record) = .ok .reimbursedInFull →
          PaidBack record) ∧
      (∀ reason, watchOnce shown (some record) = .ok (.reimbursementShort reason) →
        PaidShort record)) ∧
    records.Pairwise fun earlier later =>
      ∀ outcome, watchOnce shown (some earlier) = .ok outcome → outcome.isTerminal = true →
        ∃ next, watchOnce shown (some later) = .ok next ∧ outcome.SameKind next := by
  constructor
  · intro record member
    obtain ⟨⟨outcome, answer⟩, full, short⟩ := @watchOnce_sound shown _ (judgeable record member)
    refine ⟨⟨outcome, answer⟩, ?_, full, ?_, short⟩
    · intro timeout elapsed late
      exact ⟨_, by rw [pollSingleTx_eq, answer]; rfl⟩
    · intro timeout elapsed late reported
      rw [pollSingleTx_eq, answer] at reported
      have paid := monitorStep_eq_reimbursedInFull (Except.ok.inj reported)
      exact full (paid ▸ answer)
  · exact grows.imp_of_mem fun first second extends' _ answer terminal =>
      watchOnce_final extends' (judgeable _ first) (judgeable _ second) answer terminal

def fiveUnitsLog (sender recipient : String) : Log := ⟨[transferTopic0, sender, recipient], "0x05"⟩

def sampleExecutor : String := "0x1111111111111111111111111111111111111111"

def sampleUser : String := "0x2222222222222222222222222222222222222222"

def sampleRecord (express execute : Option Receipt) : ExpressRecord where
  expressExecuted := some ⟨none, none, some sampleExecutor, express⟩
  executed := some ⟨none, execute⟩
  notToExpressExecute := none
  expressError := none
  gas := none

def advanceReceipt : Receipt := ⟨none, [fiveUnitsLog sampleExecutor sampleUser]⟩

def paybackReceipt : Receipt := ⟨none, [fiveUnitsLog sampleUser sampleExecutor]⟩

theorem plain_of_all {receipt : Receipt}
    (checked : (receipt.logs.all fun log => log.topics.all fun topic =>
      topic.toList.all fun char => char.utf8Size == 1) = true) : receipt.Plain := by
  intro log logged topic listed char member
  have topics := List.all_eq_true.mp (List.all_eq_true.mp checked log logged) topic listed
  exact beq_iff_eq.mp (List.all_eq_true.mp topics char member)

theorem sampleRecord_judgeable :
    Judgeable (sampleRecord (some advanceReceipt) (some paybackReceipt)) := by
  have compared : (sampleRecord (some advanceReceipt) (some paybackReceipt)).compared =
      some (List.replicate 20 17, advanceReceipt, paybackReceipt) := by decide +kernel
  constructor
  · intro _ _
    rw [compared]
    rfl
  · intro executor express execute found
    obtain ⟨rfl, rfl, rfl⟩ : _ ∧ _ ∧ _ := by
      simpa only [Option.some.injEq, Prod.mk.injEq] using compared.symm.trans found
    exact ⟨plain_of_all (by decide +kernel), plain_of_all (by decide +kernel)⟩
  · intro executor express execute found
    obtain ⟨rfl, rfl, rfl⟩ : _ ∧ _ ∧ _ := by
      simpa only [Option.some.injEq, Prod.mk.injEq] using compared.symm.trans found
    decide +kernel
  · intro executor express execute found
    obtain ⟨rfl, rfl, rfl⟩ : _ ∧ _ ∧ _ := by
      simpa only [Option.some.injEq, Prod.mk.injEq] using compared.symm.trans found
    decide +kernel
  · intro _ _
    decide

/-- A record with both receipts, in which the executor is paid back. -/
theorem paid_back_record_is_final :
    watchOnce (fun _ => "") (some (sampleRecord (some advanceReceipt) (some paybackReceipt))) =
        .ok .reimbursed ∧
      PaidBack (sampleRecord (some advanceReceipt) (some paybackReceipt)) := by
  have answer : watchOnce (fun _ => "")
      (some (sampleRecord (some advanceReceipt) (some paybackReceipt))) = .ok .reimbursed := by
    decide +kernel
  have sound := express_verdicts_are_sound_and_final (fun _ => "")
    (List.pairwise_singleton Extends (sampleRecord (some advanceReceipt) (some paybackReceipt)))
    (by
      intro record member
      rw [List.mem_singleton.mp member]
      exact sampleRecord_judgeable)
  exact ⟨answer, (sound.1 _ (List.mem_singleton.mpr rfl)).2.2.1 answer⟩

/-- Without receipts the transfer counts as reimbursed in full, until the receipts
    show that nothing was paid back; and a topic with a wide character stops the watch. -/
theorem reimbursement_is_claimed_without_receipts :
    Extends (sampleRecord none none) (sampleRecord (some advanceReceipt) (some ⟨none, []⟩)) ∧
      watchOnce (fun _ => "") (some (sampleRecord none none)) = .ok .reimbursed ∧
      (sampleRecord none none).compared = none ∧
      watchOnce (fun _ => "") (some (sampleRecord (some advanceReceipt) (some ⟨none, []⟩))) =
        .ok (.reimbursementShort ("executor fronted 5 (base units) " ++
          "but no inbound transfer in the execute tx")) ∧
      watchOnce (fun _ => "") (some (sampleRecord
        (some ⟨none, [fiveUnitsLog "é22222222222222222222222222222222222222" sampleUser]⟩)
        (some ⟨none, []⟩))) = .ok .reimbursed ∧
      watchOnce (fun _ => "") (some (sampleRecord
        (some ⟨none, [fiveUnitsLog "é222222222222222222222222222222222222222" sampleUser]⟩)
        (some ⟨none, []⟩))) = .error .notCharBoundary := by
  refine ⟨⟨?_, ?_, ?_⟩, by decide +kernel, by decide +kernel, by decide +kernel,
    by decide +kernel, by decide +kernel⟩
  · intro first present
    obtain rfl := Option.some.inj present
    exact ⟨_, rfl, fun _ absent => by simp at absent, fun _ same => same⟩
  · intro first present
    obtain rfl := Option.some.inj present
    exact ⟨_, rfl, fun _ absent => by simp at absent⟩
  · exact fun _ same => same

end Axe.Express

import Axe.DeadlineSearch

namespace Axe.Propose

open Hardened

/-!
# Which approval a consensus relay consumes

The relay waits on the legacy gateway for an approval of its payload for the ASG.  The
edge chain grows meanwhile, and anybody can have the same payload approved from
another chain or address.  The scan looks at the contract and the hash only.
-/

/-- A block of the edge chain with the logs of the legacy gateway; a log that does not
decode has no content. -/
structure EdgeBlock where
  time : Nat
  logs : List (Option ApprovalLog)

/-- The blocks of the edge chain with their logs, in the order of time. -/
structure EdgeWorld where
  blocks : List EdgeBlock
  inhabited : blocks ≠ []
  ordered : (blocks.map EdgeBlock.time).Pairwise (· ≤ ·)

namespace EdgeWorld

/-- The blocks as the search for a deadline sees them. -/
def chain (world : EdgeWorld) : EdgeChain where
  times := world.blocks.map EdgeBlock.time
  inhabited := by simpa using world.inhabited
  ordered := world.ordered

/-- The logs with a payload hash in a range of blocks. -/
def logs (world : EdgeWorld) (payloadHash : Digest) (first last : Nat) :
    List (Option ApprovalLog) :=
  (((world.blocks.drop first).take (last + 1 - first)).flatMap EdgeBlock.logs).filter
    fun entry => entry.all fun log => log.payloadHash = payloadHash

/-- The block with this number has the log. -/
def LoggedAt (world : EdgeWorld) (number : Nat) (log : ApprovalLog) : Prop :=
  ∃ block, world.blocks[number]? = some block ∧ some log ∈ block.logs

theorem mem_window {blocks : List EdgeBlock} {first last : Nat} {block : EdgeBlock} :
    block ∈ (blocks.drop first).take (last + 1 - first) ↔
      ∃ number, first ≤ number ∧ number ≤ last ∧ blocks[number]? = some block := by
  rw [List.mem_iff_getElem?]
  constructor
  · rintro ⟨place, found⟩
    rw [List.getElem?_take] at found
    split at found
    · rename_i inside
      rw [List.getElem?_drop] at found
      exact ⟨first + place, by omega, by omega, found⟩
    · cases found
  · rintro ⟨number, above, below, found⟩
    refine ⟨number - first, ?_⟩
    rw [List.getElem?_take, if_pos (by omega), List.getElem?_drop, Nat.add_sub_cancel' above]
    exact found

variable {log : ApprovalLog}

theorem mem_logs {world : EdgeWorld} {payloadHash : Digest} {first last : Nat} :
    some log ∈ world.logs payloadHash first last ↔ log.payloadHash = payloadHash ∧
        ∃ number, first ≤ number ∧ number ≤ last ∧ world.LoggedAt number log := by
  rw [logs, List.mem_filter, List.mem_flatMap]
  simp only [mem_window, LoggedAt, Option.all_some, decide_eq_true_eq]
  constructor
  · rintro ⟨⟨block, ⟨number, above, below, listed⟩, member⟩, same⟩
    exact ⟨same, number, above, below, block, listed, member⟩
  · rintro ⟨same, number, above, below, block, listed, member⟩
    exact ⟨⟨block, ⟨number, above, below, listed⟩, member⟩, same⟩

theorem latest_eq (world : EdgeWorld) : world.chain.latest = world.blocks.length - 1 := by
  simp [chain, EdgeChain.latest]

variable {number : Nat}

theorem LoggedAt.le_latest {world : EdgeWorld} (logged : world.LoggedAt number log) :
    number ≤ world.chain.latest := by
  rcases logged with ⟨block, listed, _⟩
  have bound := (List.getElem?_eq_some_iff.mp listed).1
  rw [latest_eq]
  omega

/-!
## A chain that grows
-/

/-- The chain got new blocks, whose approvals are among the given ones. -/
def Grows (approvals : Set ApprovalLog) (world later : EdgeWorld) : Prop :=
  ∃ more, later.blocks = world.blocks ++ more ∧
      ∀ block ∈ more, ∀ log, some log ∈ block.logs → log ∈ approvals

/-- All logs from a block on are known approvals. -/
def Covers (approvals : Set ApprovalLog) (world : EdgeWorld) (start : Nat) : Prop :=
  ∀ number, start ≤ number → ∀ log, world.LoggedAt number log → log ∈ approvals

/-- All logs from a time on, and those of the newest block, are known approvals. -/
def Since (approvals : Set ApprovalLog) (want : Nat) (world : EdgeWorld) : Prop :=
  ∀ number, want ≤ world.chain.time number ∨ number = world.chain.latest →
    ∀ log, world.LoggedAt number log → log ∈ approvals

variable {approvals : Set ApprovalLog} {want : Nat} {world later : EdgeWorld}

theorem Grows.loggedAt (grows : Grows approvals world later) (logged : later.LoggedAt number log) :
    world.LoggedAt number log ∨ log ∈ approvals := by
  rcases grows with ⟨more, grown, given⟩
  rcases logged with ⟨block, listed, member⟩
  rw [grown] at listed
  by_cases old : number < world.blocks.length
  · rw [List.getElem?_append_left old] at listed
    exact .inl ⟨block, listed, member⟩
  · rw [List.getElem?_append_right (not_lt.mp old)] at listed
    exact .inr (given block (List.mem_of_getElem? listed) log member)

theorem Grows.time_eq (grows : Grows approvals world later)
    (exists_ : number ≤ world.chain.latest) :
    later.chain.time number = world.chain.time number := by
  rcases grows with ⟨more, grown, _⟩
  have long := world.chain.length_pos
  rw [EdgeChain.latest] at exists_
  have old : number < (world.blocks.map EdgeBlock.time).length := by
    change 0 < (world.blocks.map EdgeBlock.time).length at long
    change number ≤ (world.blocks.map EdgeBlock.time).length - 1 at exists_
    omega
  simp only [EdgeChain.time, chain, grown, List.map_append]
  rw [List.getD_eq_getElem?_getD, List.getD_eq_getElem?_getD, List.getElem?_append_left old]

theorem Grows.latest_le (grows : Grows approvals world later) :
    world.chain.latest ≤ later.chain.latest := by
  rcases grows with ⟨more, grown, _⟩
  rw [latest_eq, latest_eq, grown, List.length_append]
  omega

theorem Covers.grows {start : Nat} (covers : Covers approvals world start)
    (grows : Grows approvals world later) :
    Covers approvals later start := by
  intro number above log logged
  rcases grows.loggedAt logged with old | given
  · exact covers number above log old
  · exact given

theorem Since.grows (since : Since approvals want world) (grows : Grows approvals world later) :
    Since approvals want later := by
  intro number late log logged
  rcases grows.loggedAt logged with old | given
  · have exists_ := old.le_latest
    apply since number _ log old
    rcases late with reached | last
    · rw [grows.time_eq exists_] at reached
      exact .inl reached
    · have longer := grows.latest_le
      exact .inr (by omega)
  · exact given

theorem Since.latest (since : Since approvals want world) :
    Covers approvals world world.chain.latest := by
  intro number above log logged
  have below := logged.le_latest
  exact since number (.inr (by omega)) log logged

theorem Since.reached (since : Since approvals want world) (late : want ≤ world.chain.time number) :
    Covers approvals world number := by
  intro other above log logged
  have sorted := world.chain.time_mono above logged.le_latest
  exact since other (.inl (late.trans sorted)) log logged

end EdgeWorld

/-!
## The requests of the relay
-/

/-- The node of the edge chain answers truthfully or fails; nothing is assumed of other
answers. -/
def Honest (gateway : Address) (world : EdgeWorld) : (op : Call) → op.Reply → Prop
  | .edgeBlockNumber, reply => ∀ number, reply = .ok number → number = world.chain.latest
  | .edgeBlock number, reply => ∀ time, reply = .ok time → time = world.chain.times[number]?
  | .edgeLogs contract payloadHash first last, reply =>
    contract = gateway → ∀ logs, reply = .ok logs → logs = world.logs payloadHash first last
  | _, _ => True

/-- The edge chain grows while the relay asks, and answers truthfully. -/
def edgeMachine (gateway : Address) (approvals : Set ApprovalLog) :
    Machine relayInterface Unit EdgeWorld where
  allowed := fun _ world op reply => Honest gateway world op reply
  react := fun _ _ here world => (here, world)
  evolve := EdgeWorld.Grows approvals

/-- The approval names the source of the message. -/
def SameSource (approved : ApprovedCall) (message : GovMessage) : Prop :=
  approved.sourceChain = message.sourceChain ∧ approved.sourceAddress = message.sourceAddress

/-- A call executes only what has the source of the message. -/
def KeepsSource (message : GovMessage) : Call → Prop
  | .asgExecute _ approved _ => SameSource approved message
  | _ => True

/-- The log approves the payload for the governance contract. -/
def Approves (asg : Address) (payloadHash : Digest) (log : ApprovalLog) : Prop :=
  log.contractAddress = asg ∧ log.payloadHash = payloadHash

section Safety

variable {gateway asg : Address} {approvals : Set ApprovalLog} {message : GovMessage} {want : Nat}
variable {payloadHash : Digest} {Value : Type}

/-- Every call is guarded while the relay runs in front of the chain. -/
abbrev Safe (gateway : Address) (approvals : Set ApprovalLog) (message : GovMessage)
    (program : Relay Value) (onDone : Value → EdgeWorld → Prop) (world : EdgeWorld) : Prop :=
  Guarded (edgeMachine gateway approvals) (fun _ _ => KeepsSource message) program
    (fun value _ world => onDone value world) () world

variable {world : EdgeWorld} {start : Nat}

theorem covers_evolves {later : EdgeWorld}
    (evolved : (edgeMachine gateway approvals).Evolves world later)
    (covers : world.Covers approvals start) :
    later.Covers approvals start := by
  induction evolved with
  | refl => exact covers
  | tail _ step ih => exact ih.grows step

theorem since_evolves {later : EdgeWorld}
    (evolved : (edgeMachine gateway approvals).Evolves world later)
    (since : world.Since approvals want) :
    later.Since approvals want := by
  induction evolved with
  | refl => exact since
  | tail _ step ih => exact ih.grows step

variable {program : Relay Value} {onDone : Value → EdgeWorld → Prop}

theorem Safe.andThen {Result : Type} {later : Value → Relay Result}
    {onResult : Result → EdgeWorld → Prop}
    (first : Safe gateway approvals message program onDone world)
    (second : ∀ value world, onDone value world →
        Safe gateway approvals message (later value) onResult world) :
    Safe gateway approvals message (program.bind later) onResult world :=
  Guarded.bind (first.weaken fun value _ world ends => second value world ends)

theorem Safe.covering (safe : Safe gateway approvals message program onDone world)
    (covers : world.Covers approvals start) :
    Safe gateway approvals message program
      (fun value world => onDone value world ∧ world.Covers approvals start) world :=
  Guarded.keeping safe (fun _ _ _ evolved held => covers_evolves evolved held)
    (fun _ _ _ _ held => held) covers

variable {request : Relay (Except String Value)}

theorem safe_checked
    (asks : Safe gateway approvals message request
        (fun outcome world => ∀ value, outcome = .ok value → onDone value world) world) :
    Safe gateway approvals message (checked request) onDone world := by
  apply Guarded.bind
  apply asks.weaken
  intro outcome here world ends
  cases outcome with
  | ok value => exact ends value rfl
  | error error => trivial

theorem timestamp_safe {number : Nat} (since : world.Since approvals want) :
    Safe gateway approvals message (timestamp number)
      (fun time world =>
        world.Since approvals want ∧ (want ≤ time → world.Covers approvals number)) world := by
  have read : Safe gateway approvals message (checked (ask (.edgeBlock number)))
      (fun (time : Option Nat) world =>
        world.Since approvals want ∧ time = world.chain.times[number]?) world := by
    apply safe_checked
    intro moved evolved
    refine ⟨trivial, ?_⟩
    intro reply honest time answered
    exact ⟨since_evolves evolved since, honest time answered⟩
  apply read.andThen
  rintro time world ⟨sinceThen, answered⟩
  cases time with
  | none => trivial
  | some time =>
    refine ⟨sinceThen, ?_⟩
    intro late
    have same : world.chain.time number = time := by
      rw [EdgeChain.time, List.getD_eq_getElem?_getD, ← answered]
      rfl
    rw [← same] at late
    exact sinceThen.reached late

theorem gallopBlocks_safe {upper distance : Nat} (positive : 0 < distance)
    (since : world.Since approvals want) (covers : world.Covers approvals upper) :
    Safe gateway approvals message (gallopBlocks want upper distance positive)
      (fun window world => world.Since approvals want ∧ world.Covers approvals window.2)
      world := by
  induction upper using Nat.strong_induction_on generalizing distance world with
  | _ upper ih =>
    rw [gallopBlocks]
    by_cases more : 0 < upper
    · rw [if_pos more]
      apply ((timestamp_safe since).covering covers).andThen
      rintro time world ⟨⟨sinceThen, reached⟩, coversUpper⟩
      by_cases early : time < want
      · rw [if_pos early]
        exact ⟨sinceThen, coversUpper⟩
      · rw [if_neg early]
        exact ih _ (by omega) (doubled_pos positive) sinceThen
          (reached (not_lt.mp early))
    · rw [if_neg more]
      exact ⟨since, covers⟩

theorem bisectBlocks_safe {lower upper : Nat} (since : world.Since approvals want)
    (covers : world.Covers approvals upper) :
    Safe gateway approvals message
      (bisect (fun mid => do return (← timestamp mid) < want) lower upper)
      (fun found world => world.Covers approvals found) world := by
  induction size : upper - lower using Nat.strong_induction_on generalizing lower upper world with
  | _ size ih =>
    by_cases wide : lower + 1 < upper
    · rw [bisect_step wide]
      have asked : Safe gateway approvals message
          (do return (← timestamp (lower + (upper - lower) / 2)) < want : Relay Bool)
          (fun early world =>
            (world.Since approvals want ∧
              (early = false → world.Covers approvals (lower + (upper - lower) / 2))) ∧
            world.Covers approvals upper) world := by
        apply ((timestamp_safe since).covering covers).andThen
        rintro time world ⟨⟨sinceThen, reached⟩, coversUpper⟩
        refine ⟨⟨sinceThen, ?_⟩, coversUpper⟩
        intro late
        exact reached (not_lt.mp (of_decide_eq_false late))
      apply asked.andThen
      rintro early world ⟨⟨sinceThen, reached⟩, coversUpper⟩
      cases early with
      | true => exact ih _ (by omega) sinceThen coversUpper rfl
      | false => exact ih _ (by omega) sinceThen (reached rfl) rfl
    · rw [bisect_done wide]
      exact covers

theorem firstBlockAt_safe {deadline : DateTime}
    (since : world.Since approvals (max deadline.timestamp 0).toNat) :
    Safe gateway approvals message (firstBlockAt deadline)
      (fun found world => world.Covers approvals found) world := by
  rw [firstBlockAt]
  generalize (max deadline.timestamp 0).toNat = want at since
  have latestRead : Safe gateway approvals message (checked (ask .edgeBlockNumber))
      (fun (latest : Nat) world =>
        world.Since approvals want ∧ world.Covers approvals latest) world := by
    apply safe_checked
    intro moved evolved
    refine ⟨trivial, ?_⟩
    intro reply honest latest answered
    have sinceThen := since_evolves evolved since
    refine ⟨sinceThen, ?_⟩
    rw [honest latest answered]
    exact sinceThen.latest
  apply latestRead.andThen
  rintro latest world ⟨sinceThen, coversLatest⟩
  apply ((timestamp_safe sinceThen).covering coversLatest).andThen
  rintro last world ⟨⟨sinceLast, _⟩, coversLast⟩
  by_cases early : last < want
  · rw [if_pos early]
    exact coversLast
  · rw [if_neg early]
    apply (gallopBlocks_safe (by decide : 0 < 64) sinceLast coversLast).andThen
    rintro window world ⟨sinceWindow, coversWindow⟩
    exact bisectBlocks_safe sinceWindow coversWindow

variable {logs : List (Option ApprovalLog)} {approved : ApprovedCall}

theorem selectApproval_some {contract : Address}
    (selected : selectApproval contract none logs = some approved) :
    ∃ log, some log ∈ logs ∧ log.contractAddress = contract ∧ log.approved = approved := by
  rcases List.exists_of_findSome?_eq_some selected with ⟨entry, member, found⟩
  cases entry with
  | none => cases found
  | some log =>
    simp only [Option.mem_def, reduceCtorEq, false_implies, implies_true, and_true,
      Option.ite_none_right_eq_some, Option.some.injEq] at found
    exact ⟨log, member, found⟩

theorem selectApproval_none {contract : Address} {log : ApprovalLog}
    (selected : selectApproval contract none logs = none) (member : some log ∈ logs) :
    log.contractAddress ≠ contract := by
  intro same
  have passed := List.findSome?_eq_none_iff.mp selected (some log) member
  simp [same] at passed

/-- The call is that of a known approval. -/
def Given (approvals : Set ApprovalLog) (asg : Address) (payloadHash : Digest)
    (approved : ApprovedCall) : Prop :=
  ∃ log ∈ approvals, Approves asg payloadHash log ∧ log.approved = approved

theorem scanApprovals_safe {last : Nat} (covers : world.Covers approvals start) :
    Safe gateway approvals message (scanApprovals gateway asg payloadHash none start last)
      (fun found _ => ∀ approved, found = some approved → Given approvals asg payloadHash approved)
      world := by
  induction last using Nat.strong_induction_on generalizing world with
  | _ last ih =>
    rw [scanApprovals]
    by_cases inside : start ≤ last
    · rw [if_pos inside]
      generalize window : max (last - (logWindowBlocks - 1)) start = first
      have above : start ≤ first := by omega
      have smaller : first ≠ start → first - 1 < last := by
        rw [logWindowBlocks] at window
        omega
      have read : Safe gateway approvals message
          (checked (ask (.edgeLogs gateway payloadHash first last)))
          (fun (logs : List (Option ApprovalLog)) world =>
            world.Covers approvals start ∧ logs = world.logs payloadHash first last) world := by
        apply safe_checked
        intro moved evolved
        refine ⟨trivial, ?_⟩
        intro reply honest logs answered
        exact ⟨covers_evolves evolved covers, honest rfl logs answered⟩
      apply read.andThen
      rintro logs world ⟨coversThen, rfl⟩
      cases selected : selectApproval asg none (world.logs payloadHash first last) with
      | some found =>
        rintro approved ⟨rfl⟩
        rcases selectApproval_some selected with ⟨log, member, contract, same⟩
        rcases EdgeWorld.mem_logs.mp member with ⟨hash, number, later, _, logged⟩
        exact ⟨log, coversThen number (above.trans later) log logged, ⟨contract, hash⟩, same⟩
      | none =>
        by_cases ends : first = start
        · simp only [ends, if_true]
          intro approved never
          cases never
        · simp only [ends, if_false]
          exact ih _ (smaller ends) coversThen
    · rw [if_neg inside]
      intro approved never
      cases never

theorem pollApproval_safe {polls : Nat} (covers : world.Covers approvals start) :
    Safe gateway approvals message (pollApproval gateway asg payloadHash start polls)
      (fun approved _ => Given approvals asg payloadHash approved) world := by
  induction polls generalizing world with
  | zero => trivial
  | succ polls ih =>
    have scanned : Safe gateway approvals message
        (findContractCallApproved gateway asg payloadHash none start)
        (fun found _ =>
          ∀ approved, found = some approved → Given approvals asg payloadHash approved)
        world := by
      have latestRead : Safe gateway approvals message (checked (ask .edgeBlockNumber))
          (fun (_ : Nat) world => world.Covers approvals start) world := by
        apply safe_checked
        intro moved evolved
        exact ⟨trivial, fun _ _ _ _ => covers_evolves evolved covers⟩
      apply latestRead.andThen
      intro latest world coversThen
      exact scanApprovals_safe coversThen
    apply (scanned.covering covers).andThen
    rintro found world ⟨given, coversThen⟩
    cases found with
    | some approved => exact given approved rfl
    | none =>
      intro moved evolved
      refine ⟨trivial, ?_⟩
      intro _ _
      exact ih (covers_evolves evolved coversThen)

theorem waitForApproval_safe (covers : world.Covers approvals start) :
    Safe gateway approvals message (waitForApproval gateway asg payloadHash start)
      (fun approved _ => Given approvals asg payloadHash approved) world := by
  intro moved evolved
  refine ⟨trivial, ?_⟩
  intro polls _
  exact pollApproval_safe (covers_evolves evolved covers)

theorem safe_of_only (only : program.Only (KeepsSource message)) :
    Safe gateway approvals message program (fun _ _ => True) world := by
  induction program generalizing world with
  | done value => trivial
  | fail error => trivial
  | call op next ih =>
    intro moved evolved
    exact ⟨only.1, fun reply _ => ih reply (only.2 reply)⟩

variable {may : relayInterface.Call → Prop}

theorem only_checked (only : request.Only may) : (checked request).Only may := by
  apply only.bind
  intro outcome
  cases outcome with
  | ok value => trivial
  | error error => trivial

theorem only_request {op : Call} (keeps : may op) : (ask op).Only may := ⟨keeps, fun _ => trivial⟩

theorem pendingOnAsg_only {plan : RelayPlan} :
    (pendingOnAsg asg plan).Only (KeepsSource message) := by
  unfold pendingOnAsg
  cases plan.ptype with
  | operator => exact only_checked (only_request trivial)
  | timelock =>
    apply (only_checked (only_request trivial)).bind
    intro eta
    trivial

theorem consumeApproval_only {relayer : Address} {payload : Bytes}
    (same : SameSource approved message) :
    (consumeApproval gateway asg relayer approved payload payloadHash).Only
      (KeepsSource message) := by
  apply (only_checked (only_request trivial)).bind
  intro stillApproved
  apply (Program.only_ensure _ _).bind
  intro _
  apply (only_checked (only_request trivial)).bind
  intro _
  exact only_checked (only_request same)

end Safety

/-!
## Delivery
-/

section Delivery

variable {formats : RelayFormats} {cfg : ResolvedConfig} {plan : RelayPlan} {payloadHash : Digest}
variable {deadline : DateTime} {gateway asg : Address} {message : GovMessage}
variable {approvals : Set ApprovalLog}

def afterApproval (gateway asg : Address) (plan : RelayPlan) (payloadHash : Digest)
    (approved : ApprovedCall) : Relay (Option Address) := do
  let consumed : Bool ← checked (ask (.commandExecuted gateway approved.commandId))
  let pending ← if consumed then pendingOnAsg asg plan else pure true
  if pending then do
    let relayer : Address ← checked (ask .connect)
    checked (ask (.ensureFunded relayer))
    if consumed then
      return some relayer
    else do
      consumeApproval gateway asg relayer approved plan.payload payloadHash
      return some relayer
  else
    return none

theorem deliver_eq (gatewayRead : formats.parseAddress cfg.gatewayAddress = some gateway)
    (asgRead : formats.parseAddress cfg.asgAddress = some asg) :
    deliver formats cfg plan payloadHash deadline = (firstBlockAt deadline).bind fun fromBlock =>
        (waitForApproval gateway asg payloadHash fromBlock).bind
          (afterApproval gateway asg plan payloadHash) := by
  rw [deliver, parsed, parsed, gatewayRead, asgRead]
  rfl

variable {approved : ApprovedCall}

theorem afterApproval_only (same : SameSource approved message) :
    (afterApproval gateway asg plan payloadHash approved).Only (KeepsSource message) := by
  have consumes : ∀ consumed pending : Bool, (if pending then do
        let relayer : Address ← checked (ask .connect)
        checked (ask (.ensureFunded relayer))
        if consumed then
          return some relayer
        else do
          consumeApproval gateway asg relayer approved plan.payload payloadHash
          return some relayer
      else
        return none : Relay (Option Address)).Only (KeepsSource message) := by
    intro consumed pending
    cases pending with
    | false => trivial
    | true =>
      apply (only_checked (only_request trivial)).bind
      intro relayer
      apply (only_checked (only_request trivial)).bind
      intro _
      cases consumed with
      | true => trivial
      | false =>
        apply (consumeApproval_only same).bind
        intro _
        trivial
  apply (only_checked (only_request trivial)).bind
  intro consumed
  cases consumed with
  | true => exact pendingOnAsg_only.bind (consumes true)
  | false => exact consumes false true

theorem deliver_safe {world : EdgeWorld}
    (gatewayRead : formats.parseAddress cfg.gatewayAddress = some gateway)
    (asgRead : formats.parseAddress cfg.asgAddress = some asg)
    (since : world.Since approvals (max deadline.timestamp 0).toNat)
    (governed : ∀ log ∈ approvals, Approves asg payloadHash log → SameSource log.approved message) :
    Safe gateway approvals message (deliver formats cfg plan payloadHash deadline)
      (fun _ _ => True) world := by
  rw [deliver_eq gatewayRead asgRead]
  apply (firstBlockAt_safe since).andThen
  intro fromBlock world covers
  apply (waitForApproval_safe covers).andThen
  rintro approved world ⟨log, member, approves, rfl⟩
  exact safe_of_only (afterApproval_only (governed log member approves))

/-- A node that answers truthfully and accepts what is sent. -/
def EdgeWorld.willing (world : EdgeWorld) (relayer : Address) (polls : Nat) : Oracle relayInterface
  | .edgeLogs _ payloadHash first last => .ok (world.logs payloadHash first last)
  | .commandExecuted _ _ => .ok false
  | .contractCallApproved _ _ _ _ => .ok true
  | .connect => .ok relayer
  | .ensureFunded _ => .ok ()
  | .approveWrite _ _ _ => .ok ()
  | .asgExecute _ _ _ => .ok ()
  | .polls => polls + 1
  | other => world.chain.node other

/-- What a scan of the blocks from `start` to before `stop` returns. -/
structure ScanFinds (asg : Address) (payloadHash : Digest) (world : EdgeWorld) (start stop : Nat)
    (found : Option ApprovedCall) : Prop where
  approves : ∀ approved, found = some approved →
      ∃ number log, start ≤ number ∧ world.LoggedAt number log ∧
        Approves asg payloadHash log ∧ log.approved = approved
  missing : found = none →
      ∀ number log, start ≤ number → number < stop → world.LoggedAt number log →
        ¬ Approves asg payloadHash log

section Windows

variable {world : EdgeWorld} {start first last : Nat}

theorem ScanFinds.of_selected {found : ApprovedCall} (above : start ≤ first)
    (selected : selectApproval asg none (world.logs payloadHash first last) = some found) :
    ScanFinds asg payloadHash world start (last + 1) (some found) := by
  constructor
  · rintro approved ⟨rfl⟩
    rcases selectApproval_some selected with ⟨log, member, contract, same⟩
    rcases EdgeWorld.mem_logs.mp member with ⟨hash, number, later, _, logged⟩
    exact ⟨number, log, above.trans later, logged, ⟨contract, hash⟩, same⟩
  · intro never
    cases never

theorem ScanFinds.of_passed {found : Option ApprovedCall}
    (selected : selectApproval asg none (world.logs payloadHash first last) = none)
    (rest : ScanFinds asg payloadHash world start first found) :
    ScanFinds asg payloadHash world start (last + 1) found := by
  constructor
  · exact rest.approves
  · intro absent number log later before logged
    by_cases newer : first ≤ number
    · rintro ⟨contract, hash⟩
      have member := EdgeWorld.mem_logs.mpr ⟨hash, number, newer, Nat.le_of_lt_succ before, logged⟩
      exact selectApproval_none selected member contract
    · exact rest.missing absent number log later (not_le.mp newer) logged

theorem ScanFinds.of_empty {stop : Nat} (empty : stop ≤ start) :
    ScanFinds asg payloadHash world start stop none := by
  constructor
  · intro approved never
    cases never
  · intro _ number log later before
    omega

end Windows

theorem scanApprovals_evaluates {world : EdgeWorld} {relayer : Address} {polls start last : Nat} :
    ∃ calls found, (scanApprovals gateway asg payloadHash none start last).evaluate
          (world.willing relayer polls) = (calls, .ok found) ∧
        ScanFinds asg payloadHash world start (last + 1) found := by
  induction last using Nat.strong_induction_on with
  | _ last ih =>
    rw [scanApprovals]
    by_cases inside : start ≤ last
    · rw [if_pos inside]
      generalize window : max (last - (logWindowBlocks - 1)) start = first
      have above : start ≤ first := by omega
      have smaller : first ≠ start → first - 1 < last := by
        rw [logWindowBlocks] at window
        omega
      have read : (checked (ask (.edgeLogs gateway payloadHash first last))).evaluate
          (world.willing relayer polls) = ([Call.edgeLogs gateway payloadHash first last],
              .ok (world.logs payloadHash first last)) :=
        checked_evaluates rfl
      cases selected : selectApproval asg none (world.logs payloadHash first last) with
      | some found =>
        refine ⟨[Call.edgeLogs gateway payloadHash first last], some found, ?_,
          .of_selected above selected⟩
        apply Program.evaluate_bind read
        rw [selected]
        rfl
      | none =>
        by_cases ends : first = start
        · refine ⟨[Call.edgeLogs gateway payloadHash first last], none, ?_, ?_⟩
          · apply Program.evaluate_bind read
            rw [selected]
            simp only [ends, if_true]
            rfl
          · exact .of_passed selected (.of_empty ends.le)
        · rcases ih _ (smaller ends) with ⟨calls, found, evaluates, finds⟩
          refine ⟨Call.edgeLogs gateway payloadHash first last :: calls, found, ?_, ?_⟩
          · apply Program.evaluate_bind read
            rw [selected]
            simp only [ends, if_false]
            exact evaluates
          · rw [Nat.sub_add_cancel (by omega)] at finds
            exact finds.of_passed selected
    · rw [if_neg inside]
      exact ⟨[], none, rfl, .of_empty (Nat.succ_le_of_lt (not_le.mp inside))⟩

theorem waitForApproval_of_scan {world : EdgeWorld} {relayer : Address} {polls start : Nat}
    {calls : List relayInterface.Call}
    (scans : (scanApprovals gateway asg payloadHash none start world.chain.latest).evaluate
        (world.willing relayer polls) = (calls, .ok (some approved))) :
    ∃ calls,
      (waitForApproval gateway asg payloadHash start).evaluate (world.willing relayer polls) =
        (calls, .ok approved) := by
  have latestRead : (checked (ask .edgeBlockNumber)).evaluate (world.willing relayer polls) =
      ([Call.edgeBlockNumber], .ok world.chain.latest) :=
    checked_evaluates rfl
  have pollsRead : (ask .polls).evaluate (world.willing relayer polls) =
      ([Call.polls], .ok (polls + 1)) :=
    rfl
  have polled : (pollApproval gateway asg payloadHash start (polls + 1)).evaluate
      (world.willing relayer polls) = _ :=
    Program.evaluate_bind (Program.evaluate_bind latestRead scans) rfl
  exact ⟨_, Program.evaluate_bind pollsRead polled⟩

theorem waitForApproval_evaluates {world : EdgeWorld} {relayer : Address} {polls start number : Nat}
    {log : ApprovalLog} (after : start ≤ number) (logged : world.LoggedAt number log)
    (approves : Approves asg payloadHash log) :
    ∃ calls approved,
      (waitForApproval gateway asg payloadHash start).evaluate (world.willing relayer polls) =
          (calls, .ok approved) ∧
        ∃ number log, start ≤ number ∧ world.LoggedAt number log ∧
          Approves asg payloadHash log ∧ log.approved = approved := by
  rcases @scanApprovals_evaluates payloadHash gateway asg world relayer polls start
      world.chain.latest with ⟨calls, found, evaluates, finds⟩
  cases found with
  | none =>
    have before := Nat.lt_succ_of_le logged.le_latest
    exact absurd approves (finds.missing rfl number log after before logged)
  | some approved =>
    rcases waitForApproval_of_scan evaluates with ⟨waited, waits⟩
    exact ⟨waited, approved, waits, finds.approves approved rfl⟩

theorem waitForApproval_newest {world : EdgeWorld} {relayer : Address} {polls start : Nat}
    {approved : ApprovedCall} (reached : start ≤ world.chain.latest)
    (selected : selectApproval asg none
          (world.logs payloadHash (max (world.chain.latest - (logWindowBlocks - 1)) start)
            world.chain.latest) = some approved) :
    ∃ calls,
      (waitForApproval gateway asg payloadHash start).evaluate (world.willing relayer polls) =
        (calls, .ok approved) := by
  have scans : ∃ calls,
      (scanApprovals gateway asg payloadHash none start world.chain.latest).evaluate
        (world.willing relayer polls) = (calls, .ok (some approved)) := by
    rw [scanApprovals, if_pos reached]
    generalize max (world.chain.latest - (logWindowBlocks - 1)) start = first at selected
    have read : (checked (ask (.edgeLogs gateway payloadHash first world.chain.latest))).evaluate
        (world.willing relayer polls) =
          ([Call.edgeLogs gateway payloadHash first world.chain.latest],
            .ok (world.logs payloadHash first world.chain.latest)) :=
      checked_evaluates rfl
    refine ⟨[Call.edgeLogs gateway payloadHash first world.chain.latest], ?_⟩
    apply Program.evaluate_bind read
    rw [selected]
    rfl
  rcases scans with ⟨calls, scanned⟩
  exact waitForApproval_of_scan scanned

theorem afterApproval_evaluates {world : EdgeWorld} {relayer : Address} {polls : Nat}
    {approved : ApprovedCall} :
    ∃ calls, (afterApproval gateway asg plan payloadHash approved).evaluate
          (world.willing relayer polls) = (calls, .ok (some relayer)) ∧
        Call.asgExecute asg approved plan.payload ∈ calls :=
  ⟨[.commandExecuted gateway approved.commandId, .connect, .ensureFunded relayer,
    .contractCallApproved gateway approved asg payloadHash,
    .approveWrite "ASG.execute (consume approval)" relayer asg,
    .asgExecute asg approved plan.payload], rfl, by simp⟩

/-- Where every step succeeds, delivery scans from the first block of the deadline on and
consumes the approval that it waited for. -/
theorem deliver_of_wait
    {world : EdgeWorld}
    {relayer : Address}
    {polls number : Nat}
    (gatewayRead : formats.parseAddress cfg.gatewayAddress = some gateway)
    (asgRead : formats.parseAddress cfg.asgAddress = some asg)
    (exists_ : number ≤ world.chain.latest)
    (late : (max deadline.timestamp 0).toNat ≤ world.chain.time number) :
    ∃ start, start ≤ number ∧ (max deadline.timestamp 0).toNat ≤ world.chain.time start ∧
        ∀ waited approved,
          (waitForApproval gateway asg payloadHash start).evaluate (world.willing relayer polls) =
              (waited, .ok approved) →
            ∃ calls, (deliver formats cfg plan payloadHash deadline).evaluate
                  (world.willing relayer polls) = (calls, .ok (some relayer)) ∧
                Call.asgExecute asg approved plan.payload ∈ calls := by
  rcases firstBlockAt_evaluates world.chain deadline with
    ⟨probes, start, searches, asks, first⟩
  have least := first.least ⟨number, exists_, late⟩
  have searched : (firstBlockAt deadline).evaluate (world.willing relayer polls) =
      (Call.edgeBlockNumber :: probes, .ok start) := by
    apply Program.evaluate_congr searches
    intro op member
    rcases List.mem_cons.mp member with rfl | probe
    · rfl
    · rcases asks op probe with ⟨_, _, rfl⟩
      rfl
  refine ⟨start, least.2 ⟨exists_, late⟩, least.1.2, ?_⟩
  intro waited approved waits
  rcases @afterApproval_evaluates plan payloadHash gateway asg world relayer polls approved with
    ⟨ended, ends, consumes⟩
  refine ⟨Call.edgeBlockNumber :: probes ++ (waited ++ ended), ?_, ?_⟩
  · rw [deliver_eq gatewayRead asgRead]
    exact Program.evaluate_bind searched (Program.evaluate_bind waits ends)
  · exact List.mem_append_right _ (List.mem_append_right _ consumes)

/-- Delivery ends where every step succeeds and an approval is logged since the deadline,
and consumes such an approval. -/
theorem deliver_evaluates
    {world : EdgeWorld}
    {relayer : Address}
    {polls number : Nat}
    {log : ApprovalLog}
    (gatewayRead : formats.parseAddress cfg.gatewayAddress = some gateway)
    (asgRead : formats.parseAddress cfg.asgAddress = some asg)
    (late : (max deadline.timestamp 0).toNat ≤ world.chain.time number)
    (logged : world.LoggedAt number log)
    (approves : Approves asg payloadHash log) :
    ∃ calls number log,
      (deliver formats cfg plan payloadHash deadline).evaluate (world.willing relayer polls) =
          (calls, .ok (some relayer)) ∧
        (max deadline.timestamp 0).toNat ≤ world.chain.time number ∧
        world.LoggedAt number log ∧ Approves asg payloadHash log ∧
        Call.asgExecute asg log.approved plan.payload ∈ calls := by
  rcases @deliver_of_wait formats cfg plan payloadHash deadline gateway asg world relayer polls
      number gatewayRead asgRead logged.le_latest late with ⟨start, after, startLate, delivers⟩
  rcases @waitForApproval_evaluates payloadHash gateway asg world relayer polls start number log
      after logged approves with
    ⟨waited, _, waits, found, foundLog, later, foundLogged, foundApproves, rfl⟩
  rcases delivers waited _ waits with ⟨calls, evaluates, sent⟩
  have sorted := world.chain.time_mono later foundLogged.le_latest
  exact ⟨calls, found, foundLog, evaluates, startLate.trans sorted, foundLogged, foundApproves,
    sent⟩

/-!
## The two sides
-/

/-- Whatever else is approved, delivery consumes the approval of the hub message. -/
structure ConsumesGovernance (formats : RelayFormats) (cfg : ResolvedConfig) (plan : RelayPlan)
    (payloadHash : Digest) (deadline : DateTime) (gateway asg : Address) (message : GovMessage)
    (approvals : Set ApprovalLog) : Prop where
  /-- On no chain whose approvals since the deadline are among the given ones is
  `ASG.execute` sent with another source, however the chain grows. -/
  never : ∀ world : EdgeWorld, world.Since approvals (max deadline.timestamp 0).toNat →
      Guarded (edgeMachine gateway approvals) (fun _ _ => KeepsSource message)
        (deliver formats cfg plan payloadHash deadline) (fun _ _ _ => True) () world
  /-- If the approval of the message is logged since the deadline and every step
  succeeds, an approval with its source is consumed. -/
  selects : ∀ world : EdgeWorld, world.Since approvals (max deadline.timestamp 0).toNat →
      ∀ number log, (max deadline.timestamp 0).toNat ≤ world.chain.time number →
        world.LoggedAt number log → Approves asg payloadHash log →
        SameSource log.approved message → ∀ relayer polls, ∃ calls approved,
            (deliver formats cfg plan payloadHash deadline).evaluate
                (world.willing relayer polls) = (calls, .ok (some relayer)) ∧
              Call.asgExecute asg approved plan.payload ∈ calls ∧
              SameSource approved message

def loggedOnce (deadline : DateTime) (log : ApprovalLog) : EdgeWorld where
  blocks := [⟨(max deadline.timestamp 0).toNat, [some log]⟩]
  inhabited := by simp
  ordered := by simp

theorem loggedAt_loggedOnce {number : Nat} {log other : ApprovalLog}
    (logged : (loggedOnce deadline log).LoggedAt number other) :
    other = log := by
  rcases logged with ⟨block, listed, member⟩
  have found := List.mem_singleton.mp (List.mem_of_getElem? listed)
  rw [found] at member
  exact Option.some.inj (List.mem_singleton.mp member)

theorem honest_willing {world : EdgeWorld} {relayer : Address} {polls : Nat} (op : Call) :
    Honest gateway world op (world.willing relayer polls op) := by
  cases op with
  | edgeBlockNumber => rintro number ⟨rfl⟩; rfl
  | edgeBlock number => rintro time ⟨rfl⟩; rfl
  | edgeLogs contract payloadHash first last => rintro _ logs ⟨rfl⟩; rfl
  | _ => trivial

/-- For every set of approvals: a consensus relay consumes the approval of the hub message
and no other one if and only if all approvals of the payload for the ASG in the set have the
source of that message. -/
theorem consensus_relay_consumes_governance_iff
    (gatewayRead : formats.parseAddress cfg.gatewayAddress = some gateway)
    (asgRead : formats.parseAddress cfg.asgAddress = some asg) :
    ConsumesGovernance formats cfg plan payloadHash deadline gateway asg message approvals ↔
      ∀ log ∈ approvals, Approves asg payloadHash log → SameSource log.approved message := by
  constructor
  · intro consumes log member approves
    have given : (loggedOnce deadline log).Since approvals (max deadline.timestamp 0).toNat := by
      intro number _ other logged
      rw [loggedAt_loggedOnce logged]
      exact member
    have logged : (loggedOnce deadline log).LoggedAt 0 log := ⟨_, rfl, List.mem_singleton_self _⟩
    rcases @deliver_evaluates formats cfg plan payloadHash deadline gateway asg
        (loggedOnce deadline log) asg 0 0 log gatewayRead asgRead le_rfl logged approves with
      ⟨calls, number, other, evaluates, _, otherLogged, _, sent⟩
    rw [loggedAt_loggedOnce otherLogged] at sent
    have honest := @honest_willing gateway (loggedOnce deadline log) asg 0
    have guarded := (consumes.never _ given).of_evaluate (fun _ _ _ _ => rfl) honest
    rw [evaluates] at guarded
    exact guarded _ sent
  · intro governed
    constructor
    · intro world since
      exact deliver_safe gatewayRead asgRead since governed
    · intro world since number log late logged approves _ relayer polls
      rcases @deliver_evaluates formats cfg plan payloadHash deadline gateway asg world relayer
          polls number log gatewayRead asgRead late logged approves with
        ⟨calls, found, other, evaluates, otherLate, otherLogged, otherApproves, sent⟩
      refine ⟨calls, other.approved, evaluates, sent, ?_⟩
      exact governed other (since found (.inl otherLate) other otherLogged) otherApproves

end Delivery

/-!
## An approval from elsewhere
-/

section Forged

/-- A governance message on the hub, and addresses that are their own texts. -/
def sampleFormats : RelayFormats where
  parseAddress := fun text => if text = "gateway" then some 1 else some 2
  keccak256 := id
  utf8 := fun text => text.toUTF8.toList

def sampleConfig : ResolvedConfig where
  edgeAxelarId := "avalanche"
  asgAddress := "asg"
  gatewayAddress := "gateway"
  axelarnetGateway := "axelar1gateway"
  govModule := "axelar1gov"
  chainId := "axelar-1"

def samplePlan : RelayPlan where
  ptype := .operator
  target := 3
  calldata := []
  payload := [7]

def sampleMessage : GovMessage where
  messageId := "0x1-0"
  sourceChain := "axelar"
  sourceAddress := "axelar1gov"

def genuineLog : ApprovalLog where
  approved := ⟨[1], "axelar", "axelar1gov"⟩
  contractAddress := 2
  payloadHash := [7]
  sourceTxHash := [1]

/-- The same payload for the same contract, called from another chain. -/
def forgedLog : ApprovalLog where
  approved := ⟨[2], "moonbeam", "0xabc"⟩
  contractAddress := 2
  payloadHash := [7]
  sourceTxHash := [2]

def forgedWorld : EdgeWorld where
  blocks := [⟨100, [some forgedLog, some genuineLog]⟩]
  inhabited := by simp
  ordered := by simp

/-- Without the other approval the relay consumes the one of the hub message. -/
theorem genuine_approval_is_consumed :
    ConsumesGovernance sampleFormats sampleConfig samplePlan [7] 100000000000 1 2 sampleMessage
      {genuineLog} := by
  apply (consensus_relay_consumes_governance_iff (by decide) (by decide)).mpr
  rintro log rfl _
  exact ⟨rfl, rfl⟩

/-- The approval of the hub message is there, and the relay consumes the other one. -/
theorem forged_approval_is_consumed :
    forgedWorld.LoggedAt 0 genuineLog ∧ SameSource genuineLog.approved sampleMessage ∧
      ¬ SameSource forgedLog.approved sampleMessage ∧
      ∃ calls, (deliver sampleFormats sampleConfig samplePlan [7] 100000000000).evaluate
            (forgedWorld.willing 9 0) = (calls, .ok (some 9)) ∧
          Call.asgExecute 2 forgedLog.approved [7] ∈ calls := by
  refine ⟨⟨_, rfl, by simp⟩, ⟨rfl, rfl⟩, ?_, ?_⟩
  · rintro ⟨chain, _⟩
    exact absurd chain (by decide)
  · rcases @deliver_of_wait sampleFormats sampleConfig samplePlan [7] 100000000000 1 2
        forgedWorld 9 0 0 (by decide) (by decide) (by decide) (by decide) with
      ⟨start, first, _, delivers⟩
    have zero := Nat.le_zero.mp first
    rw [zero] at delivers
    rcases @waitForApproval_newest [7] 1 2 forgedWorld 9 0 0 forgedLog.approved (by decide)
        (by decide) with ⟨waited, waits⟩
    exact delivers waited _ waits

end Forged

end Axe.Propose

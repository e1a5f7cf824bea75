import Axe.DecimalText
import Axe.HardenedJournal
import Axe.HexText
import Axe.ProgramCheck

namespace Axe.Propose

open Hardened

/-!
# Relaying a passed governance proposal

A passed proposal emits a message on the hub.  The relay finds that message near the
end of the voting period and brings it to the edge chain: on an Amplifier chain by a
proof, on a consensus chain by waiting for the approval of the validators.  Then the
governance contract of the edge chain, the ASG, executes it.

Every read of a chain and every write is one request.
-/

/-- A time in nanoseconds. -/
abbrev DateTime := Int

/-- The whole seconds of a time. -/
def DateTime.timestamp (time : DateTime) : Int := time / 1000000000

inductive ProposalType where
  | operator
  | timelock
  deriving DecidableEq

/-- The number of a command in a payload. -/
def ProposalType.command : ProposalType → Nat
  | operator => 2
  | timelock => 0

/-- The chains and the addresses that the relay works with. -/
structure ResolvedConfig where
  edgeAxelarId : String
  asgAddress : String
  gatewayAddress : String
  axelarnetGateway : String
  govModule : String
  chainId : String
  deriving DecidableEq

/-- A governance call with its encoded payload. -/
structure RelayPlan where
  ptype : ProposalType
  target : Address
  calldata : Bytes
  payload : Bytes
  deriving DecidableEq

/-- The message of the hub: its id, its chain and its sender. -/
structure GovMessage where
  messageId : String
  sourceChain : String
  sourceAddress : String
  deriving DecidableEq

/-- What an approval says about a call. -/
structure ApprovedCall where
  commandId : Digest
  sourceChain : String
  sourceAddress : String
  deriving DecidableEq

/-- The log of an approval. -/
structure ApprovalLog where
  approved : ApprovedCall
  contractAddress : Address
  payloadHash : Digest
  sourceTxHash : Digest
  deriving DecidableEq

/-- What the relay asks the chains. -/
inductive Call where
  | edgeBlockNumber
  | edgeBlock (number : Nat)
  | edgeLogs (gateway : Address) (payloadHash : Digest) (first last : Nat)
  | commandExecuted (gateway : Address) (commandId : Digest)
  | contractCallApproved
      (gateway : Address) (approved : ApprovedCall) (contract : Address) (payloadHash : Digest)
  | operatorProposalApproved (asg target : Address) (calldata : Bytes)
  | proposalEta (asg target : Address) (calldata : Bytes)
  | connect
  | ensureFunded (relayer : Address)
  | approveWrite (label : String) (relayer destination : Address)
  | asgExecute (asg : Address) (approved : ApprovedCall) (payload : Bytes)
  | hubBlockTime (height : Nat)
  | now
  | polls
  | sleep

/-- What is answered to each request. -/
def Call.Reply : Call → Type
  | edgeBlockNumber => Except String Nat
  | edgeBlock _ => Except String (Option Nat)
  | edgeLogs _ _ _ _ => Except String (List (Option ApprovalLog))
  | commandExecuted _ _ => Except String Bool
  | contractCallApproved _ _ _ _ => Except String Bool
  | operatorProposalApproved _ _ _ => Except String Bool
  | proposalEta _ _ _ => Except String Nat
  | connect => Except String Address
  | ensureFunded _ => Except String Unit
  | approveWrite _ _ _ => Except String Unit
  | asgExecute _ _ _ => Except String Unit
  | hubBlockTime _ => Except String (Option DateTime)
  | now => DateTime
  | polls => Nat
  | sleep => Unit

/-- The requests of the relay. -/
abbrev relayInterface : Interface where
  Call := Call
  Reply := Call.Reply

/-- A program of the relay, which can fail with a text. -/
abbrev Relay (Value : Type) := Program relayInterface String Value

/-- One request of the relay. -/
abbrev ask (op : Call) : Relay op.Reply := @Program.perform relayInterface String op

/-- Fail with the error of a request. -/
def checked {Value : Type} (request : Relay (Except String Value)) : Relay Value :=
  request.bind Program.check

/-!
## Searching for blocks
-/

def doubled (distance : Nat) : Nat := min (distance * 2) (2 ^ 64 - 1)

theorem doubled_pos {distance : Nat} (positive : 0 < distance) : 0 < doubled distance := by
  simp only [doubled]
  omega

/-- Halve the range until its bounds are neighbours. -/
def bisect (isBefore : Nat → Relay Bool) (lower upper : Nat) : Relay Nat :=
  if lower + 1 < upper then do
    let mid := lower + (upper - lower) / 2
    let before ← isBefore mid
    if before then bisect isBefore mid upper else bisect isBefore lower mid
  else
    return upper
termination_by upper - lower
decreasing_by all_goals omega

/-- The time of a block of the edge chain. -/
def timestamp (number : Nat) : Relay Nat := do
  let block : Option Nat ← checked (ask (.edgeBlock number))
  Program.orFail block ("edge block " ++ decimalText number ++ " unavailable")

/-- Go back in doubled steps until a block is before the time. -/
def gallopBlocks (want : Nat) (upper distance : Nat)
    (positive : 0 < distance) : Relay (Nat × Nat) :=
  if 0 < upper then do
    let probe := upper - distance
    let time ← timestamp probe
    if time < want then
      return (probe, upper)
    else
      gallopBlocks want probe (doubled distance) (doubled_pos positive)
  else
    return (0, upper)
termination_by upper
decreasing_by omega

/-- The first edge block at or after a time, or the latest one. -/
def firstBlockAt (time : DateTime) : Relay Nat := do
  let want := (max time.timestamp 0).toNat
  let latest : Nat ← checked (ask .edgeBlockNumber)
  let last ← timestamp latest
  if last < want then
    return latest
  else do
    let window ← gallopBlocks want latest 64 (by decide)
    bisect (fun mid => do return (← timestamp mid) < want) window.1 window.2

/-- The time of a height of the hub. -/
def blockTime (height : Nat) : Relay DateTime := do
  let time : Option DateTime ← checked (ask (.hubBlockTime height))
  Program.orFail time
    ("block " ++ decimalText height ++ " unavailable; use an archive RPC for older proposals")

/-- Go back in doubled steps until a height is before the deadline. -/
def gallopHeights (deadline : DateTime) (lower upper distance : Nat)
    (positive : 0 < distance) : Relay (Nat × Nat) :=
  if 1 < lower then do
    let time ← blockTime lower
    if deadline ≤ time then
      gallopHeights deadline (max (lower - distance) 1) lower (doubled distance)
        (doubled_pos positive)
    else
      return (lower, upper)
  else
    return (lower, upper)
termination_by lower
decreasing_by omega

/-- The height near which a proposal was executed. -/
def executionHeight (latest : Nat) (deadline : DateTime) : Relay Nat := do
  let window ← gallopHeights deadline latest latest 64 (by decide)
  bisect (fun mid => do return (← blockTime mid) < deadline) window.1 window.2

/-- The heights that are searched around the one found. -/
def scanWindow (latest height : Nat) : List Nat :=
  List.range' (height - 1) (min latest (height + 5) + 1 - (height - 1))

/-!
## Delivery
-/

/-- The blocks of one request for logs. -/
def logWindowBlocks : Nat := 100

/-- The first log that approves a call of the contract, from the transaction if one is given. -/
def selectApproval (contract : Address) (sourceTxHash : Option Digest)
    (logs : List (Option ApprovalLog)) : Option ApprovedCall :=
  logs.findSome? fun entry =>
    match entry with
    | none => none
    | some log =>
      if log.contractAddress = contract ∧ ∀ hash ∈ sourceTxHash, log.sourceTxHash = hash then
        some log.approved
      else
        none

/-- Search for an approval, one window after the other, newest first. -/
def scanApprovals (gateway contract : Address) (payloadHash : Digest) (sourceTxHash : Option Digest)
    (fromBlock last : Nat) : Relay (Option ApprovedCall) :=
  if fromBlock ≤ last then do
    let first := max (last - (logWindowBlocks - 1)) fromBlock
    let logs : List (Option ApprovalLog) ←
      checked (ask (.edgeLogs gateway payloadHash first last))
    match selectApproval contract sourceTxHash logs with
    | some approved => return some approved
    | none =>
      if first = fromBlock then
        return none
      else
        scanApprovals gateway contract payloadHash sourceTxHash fromBlock (first - 1)
  else
    return none
termination_by last
decreasing_by
  simp only [logWindowBlocks] at *
  omega

/-- Search for an approval from the latest block down. -/
def findContractCallApproved (gateway contract : Address) (payloadHash : Digest)
    (sourceTxHash : Option Digest) (fromBlock : Nat) : Relay (Option ApprovedCall) := do
  let latest : Nat ← checked (ask .edgeBlockNumber)
  scanApprovals gateway contract payloadHash sourceTxHash fromBlock latest

/-- Search for an approval a number of times. -/
def pollApproval (gateway asg : Address) (payloadHash : Digest)
    (fromBlock : Nat) : Nat → Relay ApprovedCall
  | 0 => .fail "still waiting for the validators' approval"
  | polls + 1 => do
    let found ← findContractCallApproved gateway asg payloadHash none fromBlock
    match found with
    | some approved => return approved
    | none => do
      let _ : Unit ← ask .sleep
      pollApproval gateway asg payloadHash fromBlock polls

/-- Search for an approval until the time is over. -/
def waitForApproval (gateway asg : Address) (payloadHash : Digest)
    (fromBlock : Nat) : Relay ApprovedCall := do
  let polls : Nat ← ask .polls
  pollApproval gateway asg payloadHash fromBlock polls

/-- Execute the approved call if the gateway still approves it. -/
def consumeApproval (gateway asg relayer : Address) (approved : ApprovedCall) (payload : Bytes)
    (payloadHash : Digest) : Relay Unit := do
  let stillApproved : Bool ←
    checked (ask (.contractCallApproved gateway approved asg payloadHash))
  Program.ensure (stillApproved = true)
    ("approval " ++ "0x" ++ hexEncode approved.commandId ++
      " is no longer valid on the gateway; rerun to re-check")
  checked (ask (.approveWrite "ASG.execute (consume approval)" relayer asg))
  checked (ask (.asgExecute asg approved payload))

/-- Whether the proposal is known to the governance contract. -/
def pendingOnAsg (asg : Address) (plan : RelayPlan) : Relay Bool :=
  match plan.ptype with
  | .operator => checked (ask (.operatorProposalApproved asg plan.target plan.calldata))
  | .timelock => do
    let eta : Nat ← checked (ask (.proposalEta asg plan.target plan.calldata))
    return eta ≠ 0

/-- The library functions that the relay uses. -/
structure RelayFormats where
  parseAddress : String → Option Address
  keccak256 : Bytes → Digest
  /-- The bytes of a text. -/
  utf8 : String → Bytes

variable (formats : RelayFormats)

def parsed (text : String) : Relay Address :=
  Program.orFail (formats.parseAddress text) "invalid address"

/-- Wait for the validators' approval and consume it on the ASG. -/
def deliver (cfg : ResolvedConfig) (plan : RelayPlan) (payloadHash : Digest)
    (executionTime : DateTime) : Relay (Option Address) := do
  let gateway ← parsed formats cfg.gatewayAddress
  let asg ← parsed formats cfg.asgAddress
  let fromBlock ← firstBlockAt executionTime
  let approved ← waitForApproval gateway asg payloadHash fromBlock
  let consumed : Bool ← checked (ask (.commandExecuted gateway approved.commandId))
  let pending ← if consumed then pendingOnAsg asg plan else pure true
  if pending then do
    let relayer : Address ← checked (ask .connect)
    checked (ask (.ensureFunded relayer))
    if consumed then
      return some relayer
    else do
      consumeApproval gateway asg relayer approved plan.payload payloadHash
      return some relayer
  else
    return none

end Axe.Propose

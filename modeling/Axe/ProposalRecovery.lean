import Axe.GovernancePayload
import Axe.GreedyMatching
import Axe.ProposalPlans

namespace Axe.Propose

open Hardened

/-!
# Recovering a submitted proposal

Before a proposal is submitted, the history of the hub is searched for one that carries the same
calls.  The messages of a proposal are JSON values, in any order and in two forms; each call of the
plan takes the first message that fits it and that no call before has taken.
-/

variable {Number : Type}

structure ExecuteContract (Number : Type) where
  messageType : String
  sender : String
  contract : String
  msg : Json Number
  funds : List (Json Number)

structure CallContract where
  destinationChain : String
  destinationAddress : String
  payload : String
  deriving DecidableEq

structure GovernanceCommand where
  command : BitVec 256
  target : Address
  calldata : Bytes
  value : BitVec 256
  eta : BitVec 256
  deriving DecidableEq

/-- Base64, JSON and ABI, as libraries read and write them. -/
structure RecoveryFormats (Number : Type) where
  base64 : String → Option Bytes
  base64Text : Bytes → String
  json : Bytes → Option (Json Number)
  jsonBytes : Json Number → Bytes
  abiDecode : Bytes → Option GovernanceCommand
  abiEncode : GovernanceCommand → Bytes

def recordFields (names : List String) : Json Number → Option (List (Json Number))
  | .object fields => names.mapM fun name => fields.lookup name
  | .array items => if items.length = names.length then some items else none
  | _ => none

def readExecuteContract (json : Json Number) : Option (ExecuteContract Number) :=
  match recordFields ["@type", "sender", "contract", "msg", "funds"] json with
  | some [messageType, sender, contract, msg, funds] => do
    return {
      messageType := ← messageType.asStr
      sender := ← sender.asStr
      contract := ← contract.asStr
      msg := msg
      funds := ← funds.asArray }
  | _ => none

def readCallContract (json : Json Number) : Option CallContract :=
  match recordFields ["destination_chain", "destination_address", "payload"] json with
  | some [destinationChain, destinationAddress, payload] => do
    return {
      destinationChain := ← destinationChain.asStr
      destinationAddress := ← destinationAddress.asStr
      payload := ← payload.asStr }
  | _ => none

def readGatewayCall (json : Json Number) : Option CallContract :=
  match recordFields ["call_contract"] json with
  | some [callContract] => readCallContract callContract
  | _ => none

section Matching

variable (formats : RecoveryFormats Number)

/-- The inner message: a text is base64, anything else is the message itself. -/
def readMsg : Json Number → Option CallContract
  | .text encoded => do
    let decoded ← formats.base64 encoded
    let json ← formats.json decoded
    readGatewayCall json
  | object => readGatewayCall object

/-- The payload of a message, if it carries this call. -/
def messagePayload (message : Json Number) (cfg : ResolvedConfig) (ptype : ProposalType)
    (target : Address) (calldata : Bytes) : Option Bytes := do
  let message ← readExecuteContract message
  if message.messageType ≠ executeContractUrl ∨ message.sender ≠ cfg.govModule ∨
      message.contract ≠ cfg.axelarnetGateway ∨ ¬ message.funds.isEmpty then
    none
  let call ← readMsg formats message.msg
  if call.destinationChain ≠ cfg.edgeAxelarId ∨
      ¬ eqIgnoreAsciiCase call.destinationAddress cfg.asgAddress then
    none
  let payload ← hexDecodeLoose call.payload
  let decoded ← formats.abiDecode payload
  if decoded.command = BitVec.ofNat 256 ptype.command ∧ decoded.target = target ∧
      decoded.calldata = calldata ∧ decoded.value = 0 then
    some payload
  else
    none

/-- Match the messages of a proposal with the calls of a plan. -/
def matchingPlan (messages : List (Json Number)) (plan : ProposalPlan) : Option (List Bytes) :=
  if messages.length ≠ plan.calls.length then
    none
  else
    matchRequests
      (fun call message =>
        messagePayload formats message call.cfg plan.ptype call.target call.calldata)
      messages plan.calls fun _ => false

/-!
## The proposal that a plan builds
-/

def encodeGovernancePayload (command : Nat) (target : Address) (calldata : Bytes)
    (eta : U64) : Bytes :=
  formats.abiEncode
    { command := BitVec.ofNat 256 command
      target := target
      calldata := calldata
      value := 0
      eta := BitVec.ofNat 256 eta.toNat }

def callContractMsg (call : EdgeCall) (payload : Bytes) : Json Number :=
  .object [("call_contract", .object [("destination_address", .text call.cfg.asgAddress),
      ("destination_chain", .text call.cfg.edgeAxelarId),
      ("payload", .text (hexEncode payload))])]

inductive MsgForm where
  | base64
  | object
  deriving DecidableEq

structure CarriedCall where
  call : EdgeCall
  eta : U64
  form : MsgForm
  deriving DecidableEq

def CarriedCall.payload (ptype : ProposalType) (carried : CarriedCall) : Bytes :=
  encodeGovernancePayload formats ptype.command carried.call.target carried.call.calldata
    carried.eta

def shownMessage (hub : ResolvedConfig) (ptype : ProposalType)
    (carried : CarriedCall) : Json Number :=
  let msg := callContractMsg carried.call (carried.payload formats ptype)
  .object
    [("@type", .text executeContractUrl), ("contract", .text hub.axelarnetGateway),
      ("funds", .array []),
      ("msg",
        match carried.form with
        | .base64 => .text (formats.base64Text (formats.jsonBytes msg))
        | .object => msg),
      ("sender", .text hub.govModule)]

/-- The messages carry the calls of the plan, in some order. -/
def ShowsPlan (plan : ProposalPlan) (messages : List (Json Number)) : Prop :=
  ∃ carried : List CarriedCall, (carried.map CarriedCall.call).Perm plan.calls ∧
      messages = carried.map (shownMessage formats plan.hub plan.ptype)

end Matching

structure RecoveryFormats.Sound (formats : RecoveryFormats Number) : Prop where
  base64 : ∀ bytes, formats.base64 (formats.base64Text bytes) = some bytes
  json : ∀ call payload,
      formats.json (formats.jsonBytes (callContractMsg call payload)) =
        some (callContractMsg call payload)
  abi : ∀ command, formats.abiDecode (formats.abiEncode command) = some command

variable {formats : RecoveryFormats Number}

theorem readGatewayCall_callContractMsg (call : EdgeCall) (payload : Bytes) :
    readGatewayCall (callContractMsg call payload : Json Number) =
      some ⟨call.cfg.edgeAxelarId, call.cfg.asgAddress, hexEncode payload⟩ := by
  rfl

theorem readMsg_shown (sound : formats.Sound) (hub : ResolvedConfig) (ptype : ProposalType)
    (carried : CarriedCall) :
    ∃ msg, readExecuteContract (shownMessage formats hub ptype carried) =
        some ⟨executeContractUrl, hub.govModule, hub.axelarnetGateway, msg, []⟩ ∧
      readMsg formats msg = some ⟨carried.call.cfg.edgeAxelarId, carried.call.cfg.asgAddress,
          hexEncode (carried.payload formats ptype)⟩ := by
  rcases carried with ⟨call, eta, form⟩
  cases form with
  | base64 =>
    refine ⟨_, rfl, ?_⟩
    simp only [readMsg, sound.base64, sound.json, Option.bind_eq_bind, Option.bind_some]
    rfl
  | object => exact ⟨_, rfl, rfl⟩

theorem command_word_inj {first second : ProposalType} :
    BitVec.ofNat 256 first.command = BitVec.ofNat 256 second.command ↔ first = second := by
  cases first <;> cases second <;> decide

theorem eqIgnoreAsciiCase_iff {first second : String} :
    eqIgnoreAsciiCase first second = true ↔ asciiLower first = asciiLower second :=
  decide_eq_true_iff

/-- A message of one hub fits a call exactly when type, chain, ASG, target and data are the
same; then its payload is that of the carried call. -/
theorem messagePayload_shown
    (sound : formats.Sound)
    {hub cfg : ResolvedConfig}
    (sameModule : hub.govModule = cfg.govModule)
    (sameGateway : hub.axelarnetGateway = cfg.axelarnetGateway)
    (ptype wanted : ProposalType)
    (carried : CarriedCall)
    (target : Address)
    (calldata : Bytes) :
    messagePayload formats (shownMessage formats hub ptype carried) cfg wanted target calldata =
      if carried.call.cfg.edgeAxelarId = cfg.edgeAxelarId ∧
          asciiLower carried.call.cfg.asgAddress = asciiLower cfg.asgAddress ∧
          ptype = wanted ∧ carried.call.target = target ∧ carried.call.calldata = calldata then
        some (carried.payload formats ptype)
      else
        none := by
  obtain ⟨msg, reads, readsMsg⟩ := readMsg_shown sound hub ptype carried
  have decodes : formats.abiDecode (carried.payload formats ptype) =
        some ⟨BitVec.ofNat 256 ptype.command, carried.call.target, carried.call.calldata, 0,
          BitVec.ofNat 256 carried.eta.toNat⟩ :=
    sound.abi _
  by_cases route : carried.call.cfg.edgeAxelarId = cfg.edgeAxelarId ∧
      asciiLower carried.call.cfg.asgAddress = asciiLower cfg.asgAddress
  · obtain ⟨sameEdge, sameAsg⟩ := route
    have sameCase := eqIgnoreAsciiCase_iff.mpr sameAsg
    simp [messagePayload, reads, readsMsg, decodes, sameModule, sameGateway, sameEdge, sameAsg,
      sameCase, command_word_inj]
  · have elsewhere : carried.call.cfg.edgeAxelarId ≠ cfg.edgeAxelarId ∨
          ¬ eqIgnoreAsciiCase carried.call.cfg.asgAddress cfg.asgAddress = true := by
      rw [eqIgnoreAsciiCase_iff]
      exact not_and_or.mp route
    rw [if_neg fun fits => route ⟨fits.1, fits.2.1⟩]
    simp only [messagePayload, reads, readsMsg, Option.bind_eq_bind, Option.bind_some, elsewhere,
      if_true]
    simp [sameModule, sameGateway]

def ProposalPlan.AsciiAsgs (plan : ProposalPlan) : Prop :=
  ∀ call ∈ plan.calls, Ascii call.cfg.asgAddress

instance decidableAsciiAsgs (plan : ProposalPlan) : Decidable plan.AsciiAsgs :=
  inferInstanceAs (Decidable (∀ call ∈ plan.calls, _))

section Agreement

variable {plans : PlanFormats} {dataDir : String}

theorem EdgeCall.key_eq_iff (lower : plans.Sound) {first second : EdgeCall}
    (firstAscii : Ascii first.cfg.asgAddress) (secondAscii : Ascii second.cfg.asgAddress) :
    first.key plans = second.key plans ↔
      first.cfg.edgeAxelarId = second.cfg.edgeAxelarId ∧
        asciiLower first.cfg.asgAddress = asciiLower second.cfg.asgAddress ∧
          first.target = second.target ∧ first.calldata = second.calldata := by
  rw [EdgeCall.key, EdgeCall.key, CallKey.mk.injEq, lower.lower _ firstAscii,
    lower.lower _ secondAscii]

variable {carried : List CarriedCall}

theorem shown_acceptsByKey (sound : formats.Sound) (lower : plans.Sound)
    {built wanted : ProposalPlan} {hub : String × String × String} (builtHub : built.SharesHub hub)
    (wantedHub : wanted.SharesHub hub) (builtAscii : built.AsciiAsgs)
    (wantedAscii : wanted.AsciiAsgs) (carries : (carried.map CarriedCall.call).Perm built.calls) :
    AcceptsByKey
      (fun (call : EdgeCall) (carried : CarriedCall) =>
        messagePayload formats (shownMessage formats built.hub built.ptype carried) call.cfg
          wanted.ptype call.target call.calldata)
      (fun carried => (built.ptype, carried.call.key plans))
      (fun call => (wanted.ptype, call.key plans))
      (fun carried => carried.payload formats built.ptype)
      carried wanted.calls := by
  intro call asked one member
  have sameHub : built.hub.hubSide = call.cfg.hubSide :=
    builtHub.hub_eq.trans (wantedHub call asked).symm
  simp only [ResolvedConfig.hubSide, Prod.mk.injEq] at sameHub
  have oneAscii : Ascii one.call.cfg.asgAddress :=
    builtAscii one.call (carries.mem_iff.mp (List.mem_map_of_mem member))
  have fits :=
    messagePayload_shown sound sameHub.2.2 sameHub.2.1 built.ptype wanted.ptype one call.target
      call.calldata
  have sameKeys := EdgeCall.key_eq_iff lower oneAscii (wantedAscii call asked)
  simp only [Prod.mk.injEq, sameKeys, ne_eq]
  constructor
  · intro same
    rw [fits, if_pos ⟨same.2.1, same.2.2.1, same.1, same.2.2.2⟩]
  · intro different
    rw [fits, if_neg]
    intro same
    exact different ⟨same.2.2.1, same.1, same.2.1, same.2.2.2⟩

theorem carries_ne_nil {plan : ProposalPlan}
    (carries : (carried.map CarriedCall.call).Perm plan.calls) :
    carried ≠ [] := by
  intro empty
  rw [empty, List.map_nil] at carries
  exact plan.nonempty carries.symm.eq_nil

/--
Recovery and the guard against duplicates agree: the proposal built from one plan, in any order,
with any times and in both forms, is matched by another plan exactly when both have the same
marker, that is when both are of one type and have the same calls, each equally often.  The
payloads are then those of the messages, each used once, for the calls of the plan in order.
-/
theorem recovery_agrees_with_guard
    (sound : formats.Sound)
    (lower : plans.Sound)
    {built wanted : ProposalPlan}
    {hub : String × String × String}
    (builtHub : built.SharesHub hub)
    (wantedHub : wanted.SharesHub hub)
    (builtAscii : built.AsciiAsgs)
    (wantedAscii : wanted.AsciiAsgs)
    {messages : List (Json Number)}
    (shown : ShowsPlan formats built messages) :
    ((matchingPlan formats messages wanted).isSome = true ↔
      markerPath plans dataDir built = markerPath plans dataDir wanted) ∧
    (markerPath plans dataDir built = markerPath plans dataDir wanted ↔ built.ptype = wanted.ptype ∧
        (built.calls.map (EdgeCall.key plans)).Perm (wanted.calls.map (EdgeCall.key plans))) ∧
    ∀ payloads, matchingPlan formats messages wanted = some payloads → ∃ order : List CarriedCall,
        (order.map (shownMessage formats built.hub built.ptype)).Perm messages ∧
          payloads = order.map (CarriedCall.payload formats built.ptype) ∧
            order.map (fun carried => carried.call.key plans) =
              wanted.calls.map (EdgeCall.key plans) := by
  obtain ⟨carried, carries, rfl⟩ := shown
  have byKey := shown_acceptsByKey sound lower builtHub wantedHub builtAscii wantedAscii carries
  have sameMark : markerPath plans dataDir built = markerPath plans dataDir wanted ↔ _ :=
    markerPath_eq_iff lower builtHub wantedHub
  have keysCarried :
      (carried.map fun one => one.call.key plans).Perm (built.calls.map (EdgeCall.key plans)) := by
    have mapped := carries.map (EdgeCall.key plans)
    rw [List.map_map] at mapped
    exact mapped
  have searches : carried.length = wanted.calls.length →
        matchingPlan formats (carried.map (shownMessage formats built.hub built.ptype)) wanted =
          matchRequests (fun (call : EdgeCall) (carried : CarriedCall) =>
              messagePayload formats (shownMessage formats built.hub built.ptype carried) call.cfg
                wanted.ptype call.target call.calldata)
            carried wanted.calls fun _ => false := by
    intro fits
    rw [matchingPlan, List.length_map, if_neg (not_not.mpr fits), matchRequests_map]
  refine ⟨?_, sameMark, ?_⟩
  · rw [sameMark]
    by_cases fits : carried.length = wanted.calls.length
    · rw [searches fits, matchRequests_isSome_iff byKey fits,
        perm_map_pair_iff (carries_ne_nil carries)]
      exact and_congr .rfl ⟨keysCarried.symm.trans, keysCarried.trans⟩
    · have refused :
          matchingPlan formats (carried.map (shownMessage formats built.hub built.ptype)) wanted =
            none := by
        rw [matchingPlan, List.length_map, if_pos fits]
      rw [refused]
      constructor
      · intro found
        cases found
      · intro same
        have lengths := (keysCarried.trans same.2).length_eq
        rw [List.length_map, List.length_map] at lengths
        exact (fits lengths).elim
  · intro payloads found
    have fits : carried.length = wanted.calls.length := by
      by_contra different
      rw [matchingPlan, List.length_map, if_pos different] at found
      cases found
    rw [searches fits] at found
    have all : (unused (fun _ => false) carried).length = wanted.calls.length := by
      rw [← fits, ← List.length_map Prod.fst, unused_none_map_fst]
    obtain ⟨order, uses, replied, keys⟩ := matchRequests_sound byKey all found
    rw [unused_none_map_fst] at uses
    refine ⟨order, uses.map _, replied, ?_⟩
    have seconds := congrArg (List.map Prod.snd) keys
    rw [List.map_map, List.map_map] at seconds
    exact seconds

end Agreement

/-!
Formats that read back what they write, and two plans of the same calls.
-/

theorem wholeWord_fit : 2 ^ 256 ≤ 256 ^ 32 := Nat.le_of_eq rfl

/-- The fields of an inner message one after the other, in place of JSON. -/
def sampleRecovery : RecoveryFormats Nat where
  base64 := hexDecode
  base64Text := hexEncode
  json := fun bytes =>
    ((Codec.text.pair (Codec.text.pair Codec.text)).decodeAll bytes).map fun fields =>
      .object [("call_contract", .object
        [("destination_address", .text fields.1), ("destination_chain", .text fields.2.1),
          ("payload", .text fields.2.2)])]
  jsonBytes := fun json =>
    match readGatewayCall json with
    | some call =>
      (Codec.text.pair (Codec.text.pair Codec.text)).encode
        (call.destinationAddress, call.destinationChain, call.payload)
    | none => []
  abiDecode := fun bytes =>
    ((Codec.word 32 256 wholeWord_fit).pair ((Codec.word 20 160 twentyBytes_fit).pair
      (Codec.bytes.pair ((Codec.word 32 256 wholeWord_fit).pair
        (Codec.word 32 256 wholeWord_fit))))).decodeAll bytes |>.map fun fields =>
      ⟨fields.1, fields.2.1, fields.2.2.1, fields.2.2.2.1, fields.2.2.2.2⟩
  abiEncode := fun command =>
    ((Codec.word 32 256 wholeWord_fit).pair ((Codec.word 20 160 twentyBytes_fit).pair
      (Codec.bytes.pair ((Codec.word 32 256 wholeWord_fit).pair
        (Codec.word 32 256 wholeWord_fit))))).encode
      (command.command, command.target, command.calldata, command.value, command.eta)

theorem sampleRecovery_sound : sampleRecovery.Sound where
  base64 := hexDecode_hexEncode
  json := by
    intro call payload
    simp only [sampleRecovery, readGatewayCall_callContractMsg, Codec.decodeAll_encode]
    rfl
  abi := by
    intro command
    simp only [sampleRecovery, Codec.decodeAll_encode]
    rfl

def chainCall (chain asg : String) : EdgeCall where
  cfg :=
    { edgeAxelarId := chain
      asgAddress := asg
      gatewayAddress := "0x02"
      axelarnetGateway := "axelar1gateway"
      govModule := "axelar1gov"
      chainId := "axelar-dojo-1" }
  target := 5
  calldata := [1, 2]

def twoChainPlan (spelled : Bool) : ProposalPlan where
  ptype := .timelock
  calls :=
    if spelled then
      [chainCall "hedera" "0xAB", chainCall "flow" "0xCD"]
    else
      [chainCall "flow" "0xcd", chainCall "hedera" "0xab"]
  nonempty := by cases spelled <;> decide

/-- A proposal is found by a plan that spells and orders its calls differently. -/
theorem respelled_plan_is_recovered : markerPath samplePlanFormats "data" (twoChainPlan true) =
        markerPath samplePlanFormats "data" (twoChainPlan false) ∧
      (matchingPlan sampleRecovery
        ([⟨chainCall "flow" "0xCD", 9, .base64⟩, ⟨chainCall "hedera" "0xAB", 7, .object⟩].map
          (shownMessage sampleRecovery (twoChainPlan true).hub .timelock))
        (twoChainPlan false)).isSome = true := by
  have agrees :=
    @recovery_agrees_with_guard _ sampleRecovery samplePlanFormats "data" sampleRecovery_sound
      samplePlanFormats_sound (twoChainPlan true) (twoChainPlan false)
      ("axelar-dojo-1", "axelar1gateway", "axelar1gov") (by decide) (by decide)
      (by decide) (by decide) _
      ⟨[⟨chainCall "flow" "0xCD", 9, .base64⟩, ⟨chainCall "hedera" "0xAB", 7, .object⟩],
        by decide, rfl⟩
  have same := agrees.2.1.mpr ⟨rfl, by decide⟩
  exact ⟨same, agrees.1.mpr same⟩

end Axe.Propose

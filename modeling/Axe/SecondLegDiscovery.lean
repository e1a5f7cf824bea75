import Mathlib.Data.List.Nodup

namespace Axe.Cosmos

/-!
# The second legs of hub transactions

An ITS transfer goes over the hub: executing its first leg there routes a second message on.
The id of that message is looked up in the events of the transaction that executed the first
leg.  A relayer may execute any number of messages in one transaction.

Reading the answer of the node into the envelope is the work of a JSON library.
-/

structure TmAttribute where
  key : Option String
  value : Option String
  deriving DecidableEq

/-- An event of a hub transaction. -/
structure TmEvent where
  eventType : String
  attributes : List TmAttribute
  deriving DecidableEq

structure TxSearchTx where
  txResult : Option (List TmEvent)
  deriving DecidableEq

structure TxSearchEnvelope where
  result : Option (List TxSearchTx)
  deriving DecidableEq

inductive AxeError where
  | invalidTxSearch (reason : String)
  | txSearchMissingResult
  | txSearchMissingTxResult
  | missingWasmRoutingAttribute (field : String)
  deriving DecidableEq

namespace AxeError

def text : AxeError → String
  | invalidTxSearch reason => "invalid tx_search response: " ++ reason
  | txSearchMissingResult => "tx_search response missing result"
  | txSearchMissingTxResult => "tx_search result missing tx_result"
  | missingWasmRoutingAttribute field => "wasm-routing event missing '" ++ field ++ "' attribute"

end AxeError

/-- The message of the second leg. -/
structure SecondLegInfo where
  messageId : String
  sourceChain : String
  destinationChain : String
  payloadHash : String
  sourceAddress : String
  destinationAddress : String
  deriving DecidableEq

namespace TmEvent

def getAttr (event : TmEvent) (key : String) : Option String :=
  event.attributes.findSome? fun entry =>
    if entry.key = some key then entry.value else none

def requireAttr (event : TmEvent) (key : String) : Except AxeError String :=
  match event.getAttr key with
  | some value => .ok value
  | none => .error (.missingWasmRoutingAttribute key)

/-- The second leg that a routing event reports. -/
def secondLeg (event : TmEvent) : Except AxeError SecondLegInfo := do
  let messageId ← event.requireAttr "message_id"
  let sourceChain ← event.requireAttr "source_chain"
  let destinationChain ← event.requireAttr "destination_chain"
  let payloadHash ← event.requireAttr "payload_hash"
  let sourceAddress ← event.requireAttr "source_address"
  let destinationAddress ← event.requireAttr "destination_address"
  return ⟨messageId, sourceChain, destinationChain, payloadHash, sourceAddress, destinationAddress⟩

def carries (event : TmEvent) (key value : String) : Bool :=
  event.attributes.any fun entry => entry.key = some key ∧ entry.value = some value

end TmEvent

def routingType : String := "wasm-routing"

def executedType : String := "wasm-message_executed"

/-- The second leg in the answer to a search. -/
def secondLegOfEnvelope (envelope : TxSearchEnvelope) : Except AxeError (Option SecondLegInfo) :=
  match envelope.result with
  | none => .error .txSearchMissingResult
  | some [] => .ok none
  | some (tx :: _) =>
    match tx.txResult with
    | none => .error .txSearchMissingTxResult
    | some events =>
      match events.find? fun event => event.eventType = routingType with
      | none => .ok none
      | some event => event.secondLeg.map some

variable {Value : Type}

/-- Read the answer to a search and look for the second leg. -/
def parseSecondLegFromTxSearchTyped (fromValue : Value → Except String TxSearchEnvelope)
    (response : Value) : Except AxeError (Option SecondLegInfo) :=
  match fromValue response with
  | .error reason => .error (.invalidTxSearch reason)
  | .ok envelope => secondLegOfEnvelope envelope

/-- Look up the second leg of a first leg, with the node's answers to searches for an event's
key and value. -/
def discoverSecondLeg (fromValue : Value → Except String TxSearchEnvelope)
    (search : String → String → String → Except String Value)
    (firstLegMessageId : String) : Except String (Option SecondLegInfo) :=
  match search executedType "message_id" firstLegMessageId with
  | .error error => .error error
  | .ok response =>
    match parseSecondLegFromTxSearchTyped fromValue response with
    | .error error => .error error.text
    | .ok info => .ok info

/-!
## Hub transactions
-/

def TmEvent.quiet (event : TmEvent) : Bool :=
  event.eventType ≠ routingType ∧ event.eventType ≠ executedType

def TmEvent.Executes (event : TmEvent) (id : String) : Prop :=
  event.eventType = executedType ∧ ∀ value, event.carries "message_id" value = true ↔ value = id

def TmEvent.Routes (event : TmEvent) (info : SecondLegInfo) : Prop :=
  event.eventType = routingType ∧ event.secondLeg = .ok info

/-- The events of a transaction: each executed message is followed by the routing event that
its execution caused. -/
inductive Executions : List TmEvent → List (String × SecondLegInfo) → Prop where
  | nil
      {events : List TmEvent}
      (quiet : ∀ event ∈ events, event.quiet = true) :
      Executions events []
  | cons
      {before between rest : List TmEvent}
      {executed routing : TmEvent}
      {id : String}
      {info : SecondLegInfo}
      {others : List (String × SecondLegInfo)}
      (quietBefore : ∀ event ∈ before, event.quiet = true)
      (executes : executed.Executes id)
      (quietBetween : ∀ event ∈ between, event.quiet = true)
      (routes : routing.Routes info)
      (more : Executions rest others) :
      Executions (before ++ executed :: (between ++ routing :: rest)) ((id, info) :: others)

structure HubTx where
  events : List TmEvent
  executions : List (String × SecondLegInfo)
  executed : Executions events executions

structure Hub where
  txs : List HubTx
  once : (txs.flatMap fun tx => tx.executions.map Prod.fst).Nodup

namespace Hub

/-- What a node answers: the first transaction with an event of a type that has a value under a
key. -/
def txSearch (hub : Hub) (eventType key value : String) : TxSearchEnvelope where
  result :=
    some (((hub.txs.filter fun tx =>
      tx.events.any fun event => event.eventType = eventType ∧ event.carries key value = true).take
        1).map fun tx => ⟨some tx.events⟩)

end Hub

namespace TmEvent

variable {event : TmEvent}

theorem quiet_routing (quiet : event.quiet = true) : event.eventType ≠ routingType :=
  (of_decide_eq_true quiet).1

theorem quiet_executed (quiet : event.quiet = true) : event.eventType ≠ executedType :=
  (of_decide_eq_true quiet).2

theorem Executes.not_routing {id : String} (executes : event.Executes id) :
    event.eventType ≠ routingType := by
  rw [executes.1]
  decide

theorem Routes.not_executed {info : SecondLegInfo} (routes : event.Routes info) :
    event.eventType ≠ executedType := by
  rw [routes.1]
  decide

end TmEvent

namespace Executions

variable {events : List TmEvent} {executions : List (String × SecondLegInfo)}

theorem find_routing {id : String} {info : SecondLegInfo}
    (executed : Executions events ((id, info) :: executions)) :
    ∃ routing, events.find? (fun event => event.eventType = routingType) = some routing ∧
      routing.secondLeg = .ok info := by
  cases executed with
  | @cons before between rest execution routing _ _ _ quietBefore executes quietBetween routes _ =>
    have skipsBefore : before.find? (fun event => event.eventType = routingType) = none :=
      List.find?_eq_none.mpr fun event member => by
        simpa using TmEvent.quiet_routing (quietBefore event member)
    have skipsBetween : between.find? (fun event => event.eventType = routingType) = none :=
      List.find?_eq_none.mpr fun event member => by
        simpa using TmEvent.quiet_routing (quietBetween event member)
    refine ⟨routing, ?_, routes.2⟩
    simp [List.find?_append, skipsBefore, skipsBetween, executes.not_routing, routes.1]

def finds (id : String) (event : TmEvent) : Bool :=
  event.eventType = executedType ∧ event.carries "message_id" id = true

theorem any_finds (executed : Executions events executions) (id : String) :
    events.any (finds id) = true ↔ id ∈ executions.map Prod.fst := by
  have quietly : ∀ events : List TmEvent, (∀ event ∈ events, event.quiet = true) →
        events.any (finds id) = false := by
    intro events quiet
    apply List.any_eq_false.mpr
    intro event member
    simp [finds, TmEvent.quiet_executed (quiet event member)]
  induction executed with
  | nil quiet => simp [quietly _ quiet]
  | @cons before between rest execution routing other _ _ quietBefore executes quietBetween
      routes more ih =>
      have here : finds id execution = true ↔ id = other := by
        simp [finds, executes.1, executes.2 id]
      have there : finds id routing = false := by simp [finds, routes.not_executed]
      have searched : (before ++ execution :: (between ++ routing :: rest)).any (finds id) =
            (finds id execution || rest.any (finds id)) := by
        simp [quietly _ quietBefore, quietly _ quietBetween, there]
      rw [searched, Bool.or_eq_true, here, List.map_cons, List.mem_cons]
      exact or_congr .rfl ih

end Executions

namespace Hub

theorem filter_finds (hub : Hub) {tx : HubTx} {id : String} (member : tx ∈ hub.txs)
    (executed : id ∈ tx.executions.map Prod.fst) :
    ∃ others, hub.txs.filter (fun tx => tx.events.any (Executions.finds id)) = tx :: others := by
  obtain ⟨first, rest, shape⟩ := List.append_of_mem member
  have apart := hub.once
  rw [shape, List.flatMap_append, List.flatMap_cons] at apart
  have elsewhere : first.filter (fun tx => tx.events.any (Executions.finds id)) = [] := by
    apply List.filter_eq_nil_iff.mpr
    intro other earlier found
    have executedToo := (other.executed.any_finds id).mp found
    have inFirst : id ∈ first.flatMap fun tx => tx.executions.map Prod.fst :=
      List.mem_flatMap.mpr ⟨other, earlier, executedToo⟩
    exact List.disjoint_of_nodup_append apart inFirst (List.mem_append_left _ executed)
  have here : tx.events.any (Executions.finds id) = true := (tx.executed.any_finds id).mpr executed
  refine ⟨rest.filter fun tx => tx.events.any (Executions.finds id), ?_⟩
  rw [shape, List.filter_append, elsewhere, List.nil_append]
  exact List.filter_cons_of_pos here

end Hub

section Discovery

variable {fromValue : Value → Except String TxSearchEnvelope} {encode : TxSearchEnvelope → Value}

def Hub.answers (hub : Hub) (encode : TxSearchEnvelope → Value)
    (eventType key value : String) : Except String Value :=
  .ok (encode (hub.txSearch eventType key value))

theorem discoverSecondLeg_eq_first (reads : ∀ envelope, fromValue (encode envelope) = .ok envelope)
    {hub : Hub} {tx : HubTx} (member : tx ∈ hub.txs) {id : String} {info : SecondLegInfo}
    (executed : (id, info) ∈ tx.executions) :
    discoverSecondLeg fromValue (hub.answers encode) id =
      .ok (tx.executions.head?.map Prod.snd) := by
  have named : id ∈ tx.executions.map Prod.fst := List.mem_map.mpr ⟨_, executed, rfl⟩
  obtain ⟨more, found⟩ := hub.filter_finds member named
  have envelope : hub.txSearch executedType "message_id" id = ⟨some [⟨some tx.events⟩]⟩ := by
    have answer : hub.txSearch executedType "message_id" id =
          ⟨some (((hub.txs.filter fun tx => tx.events.any (Executions.finds id)).take 1).map
            fun tx => ⟨some tx.events⟩)⟩ := rfl
    rw [answer, found]
    rfl
  have executions := tx.executed
  cases shape : tx.executions with
  | nil =>
    rw [shape] at executed
    cases executed
  | cons first others =>
    rw [shape] at executions
    obtain ⟨routing, finds, carried⟩ := executions.find_routing
    rw [discoverSecondLeg, Hub.answers, envelope]
    simp only [parseSecondLegFromTxSearchTyped, reads, secondLegOfEnvelope, finds, carried]
    rfl

/--
When second legs are attributed to their own first legs: a first leg is given the second leg
that it caused exactly when the first message of its transaction caused the same one, and two
first legs are given different ones exactly when the first messages of their transactions
caused different ones.
-/
theorem second_leg_is_own_iff
    (reads : ∀ envelope, fromValue (encode envelope) = .ok envelope)
    {hub : Hub}
    {tx : HubTx}
    (member : tx ∈ hub.txs)
    {id : String}
    {info : SecondLegInfo}
    (executed : (id, info) ∈ tx.executions) :
    (discoverSecondLeg fromValue (hub.answers encode) id = .ok (some info) ↔
      tx.executions.head?.map Prod.snd = some info) ∧
    ∀ other ∈ hub.txs, ∀ otherId otherInfo, (otherId, otherInfo) ∈ other.executions →
      (discoverSecondLeg fromValue (hub.answers encode) id ≠
          discoverSecondLeg fromValue (hub.answers encode) otherId ↔
        tx.executions.head?.map Prod.snd ≠ other.executions.head?.map Prod.snd) := by
  have own := discoverSecondLeg_eq_first reads member executed
  constructor
  · rw [own, Except.ok.injEq]
  · intro other otherMember otherId otherInfo otherExecuted
    rw [own, discoverSecondLeg_eq_first reads otherMember otherExecuted, ne_eq, Except.ok.injEq]

end Discovery

/-!
Transactions whose executions follow each other directly.
-/

def executedEvent (id : String) : TmEvent := ⟨executedType, [⟨some "message_id", some id⟩]⟩

def routingEvent (info : SecondLegInfo) : TmEvent :=
  ⟨routingType,
    [⟨some "message_id", some info.messageId⟩, ⟨some "source_chain", some info.sourceChain⟩,
      ⟨some "destination_chain", some info.destinationChain⟩,
      ⟨some "payload_hash", some info.payloadHash⟩,
      ⟨some "source_address", some info.sourceAddress⟩,
      ⟨some "destination_address", some info.destinationAddress⟩]⟩

def batchEvents (executions : List (String × SecondLegInfo)) : List TmEvent :=
  executions.flatMap fun execution => [executedEvent execution.1, routingEvent execution.2]

theorem executions_batchEvents (executions : List (String × SecondLegInfo)) :
    Executions (batchEvents executions) executions := by
  induction executions with
  | nil =>
    apply Executions.nil
    intro event member
    cases member
  | cons execution rest ih =>
    have executes : (executedEvent execution.1).Executes execution.1 := by
      refine ⟨rfl, ?_⟩
      intro value
      simp [TmEvent.carries, executedEvent, eq_comm]
    exact @Executions.cons [] [] _ _ _ _ _ _ (fun _ member => by cases member) executes
      (fun _ member => by cases member) ⟨rfl, rfl⟩ ih

def batchTx (executions : List (String × SecondLegInfo)) : HubTx where
  events := batchEvents executions
  executions := executions
  executed := executions_batchEvents executions

def transferTo (chain messageId : String) : SecondLegInfo where
  messageId := messageId
  sourceChain := "axelar"
  destinationChain := chain
  payloadHash := "6a09e667"
  sourceAddress := "axelar1its"
  destinationAddress := "0xits"

/-- A relayer executes two transfers in one transaction. -/
def batchingHub : Hub where
  txs :=
    [batchTx [("0x01-0", transferTo "flow" "0xaa-3"), ("0x02-0", transferTo "hedera" "0xaa-7")]]
  once := by decide

/-- The first transfer of a batch is given its own second leg. -/
theorem first_transfer_is_given_own_second_leg :
    discoverSecondLeg Except.ok (batchingHub.answers fun envelope => envelope) "0x01-0" =
      .ok (some (transferTo "flow" "0xaa-3")) :=
  (second_leg_is_own_iff (fun _ => rfl) (List.mem_singleton_self _)
    (List.mem_cons_self : ("0x01-0", transferTo "flow" "0xaa-3") ∈ _)).1.mpr rfl

/-- The second transfer of a batch, to another chain, is given the second leg of the first. -/
theorem second_transfer_is_given_foreign_second_leg :
    ("0x02-0", transferTo "hedera" "0xaa-7") ∈ batchingHub.txs.flatMap HubTx.executions ∧
      discoverSecondLeg Except.ok (batchingHub.answers fun envelope => envelope) "0x02-0" =
        .ok (some (transferTo "flow" "0xaa-3")) ∧
      discoverSecondLeg Except.ok (batchingHub.answers fun envelope => envelope) "0x01-0" =
        .ok (some (transferTo "flow" "0xaa-3")) := by
  decide

end Axe.Cosmos

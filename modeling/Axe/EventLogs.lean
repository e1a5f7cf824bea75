import Axe.PayloadDecoding

namespace Axe.Decode

open Axe.Codec (bigEndian fromBigEndian)

/-!
# Decoding event logs

The indexed parameters of an event are in the topics of a log, the others in its data.
One cursor goes over the topics and one over the decoded data, while the parameters are
taken in the order of their declaration.
-/

/-- The types of parameters that are told apart. -/
inductive EventType where
  | address
  | bool
  | uint (bits : Nat)
  | int (bits : Nat)
  | other (text : String)

/-- A declared parameter.  The type of a tuple is given with its components. -/
structure EventParam where
  name : String
  ty : String
  indexed : Bool

/-- An event of the database. -/
structure Event where
  signature : String
  inputs : List EventParam

/-- The database of events and the decoder of the ABI library. -/
structure EventAbi where
  eventDb : Except String (Bytes → Option Event)
  resolve : String → Option EventType
  decodeParams : List EventType → Bytes → Option (List SolValue)

/-- The name of a parameter, or its number. -/
def label (param : EventParam) (number : Nat) : String :=
  if param.name = "" then "arg" ++ decimalText number else param.name

/-- The value of an indexed parameter, as the topic shows it. -/
def topicValue (ty : Option EventType) (topic : Bytes) : SolValue :=
  match ty with
  | some .address => .address (topic.drop 12)
  | some .bool => .bool (topic.getD 31 0 ≠ 0)
  | some (.uint bits) => .uint (BitVec.ofNat 256 (fromBigEndian topic)) bits
  | some (.int bits) => .int (BitVec.ofNat 256 (fromBigEndian topic)) bits
  | _ => .fixedBytes topic

namespace EventAbi

section Decoding

variable (abi : EventAbi)

/-- Pair the parameters with the topics and with the values of the data. -/
def pairParams (topics : List Bytes) (values : List SolValue) :
    List EventParam → Nat → Nat → List (String × SolValue) → List (String × SolValue)
  | [], _, _, result => result
  | param :: rest, topicIdx, dataIdx, result =>
    if param.indexed then
      match topics[topicIdx]? with
      | some topic =>
        pairParams topics values rest (topicIdx + 1) dataIdx
          (result ++ [(label param result.length, topicValue (abi.resolve param.ty) topic)])
      | none => pairParams topics values rest topicIdx dataIdx result
    else
      match values[dataIdx]? with
      | some value =>
        pairParams topics values rest topicIdx (dataIdx + 1)
          (result ++ [(label param result.length, value)])
      | none => pairParams topics values rest topicIdx dataIdx result

/-- The types of the parameters that stand in the data. -/
def dataTypes (event : Event) : List EventType :=
  (event.inputs.filter fun param => !param.indexed).filterMap fun param => abi.resolve param.ty

/-- The signature of the event, and its parameters with their values. -/
def decodeLog (topics : List Bytes) (data : Bytes) : Option (String × List (String × SolValue)) := do
  let topic0 ← topics.head?
  let db ← abi.eventDb.toOption
  let event ← db topic0
  let values ← abi.decodeParams (abi.dataTypes event) data
  return (event.signature, abi.pairParams topics values event.inputs 1 0 [])

/-!
## What belongs together
-/

/-- The event of a log: the one the database has for the first topic. -/
def EventOf (topics : List Bytes) (event : Event) : Prop :=
  ∃ db topic0, abi.eventDb = .ok db ∧ topics.head? = some topic0 ∧ db topic0 = some event

/-- The database is embedded in the program.  In its events every parameter has a name and
a type that resolves. -/
def Embedded : Prop :=
  ∀ topics event, abi.EventOf topics event → ∀ param ∈ event.inputs,
    param.name ≠ "" ∧ (abi.resolve param.ty).isSome = true

/-- The parameters with a value in the data, as the types of the data are resolved. -/
def isDatum (param : EventParam) : Bool := !param.indexed && (abi.resolve param.ty).isSome

/-- The pair has the name of a parameter, and the value at the place of this parameter:
behind those of the parameters that are declared before it. -/
def Right (topics : List Bytes) (values : List SolValue) (inputs : List EventParam)
    (pair : String × SolValue) : Prop :=
  ∃ before param after, inputs = before ++ param :: after ∧ pair.1 = param.name ∧
    if param.indexed then
      ∃ topic, topics[before.countP EventParam.indexed + 1]? = some topic ∧
        pair.2 = topicValue (abi.resolve param.ty) topic
    else
      abi.isDatum param = true ∧ values[before.countP abi.isDatum]? = some pair.2

/-- The topic of an indexed value, and the value it is shown as. -/
inductive InTopic (hash : SolValue → Bytes) : EventType → SolValue → Bytes → SolValue → Prop where
  | address (bytes : Bytes) :
      InTopic hash .address (.address bytes) (List.replicate 12 0 ++ bytes) (.address bytes)
  | bool (value : Bool) :
      InTopic hash .bool (.bool value) (List.replicate 31 0 ++ [if value then 1 else 0]) (.bool value)
  | uint (value : BitVec 256) (bits : Nat) :
      InTopic hash (.uint bits) (.uint value bits) (bigEndian 32 value.toNat) (.uint value bits)
  | int (value : BitVec 256) (bits : Nat) :
      InTopic hash (.int bits) (.int value bits) (bigEndian 32 value.toNat) (.int value bits)
  | padded (text : String) (bytes : Bytes) : InTopic hash (.other text) (.fixedBytes bytes)
        (bytes ++ List.replicate (32 - bytes.length) 0)
        (.fixedBytes (bytes ++ List.replicate (32 - bytes.length) 0))
  | hashed (text : String) (value : SolValue) :
      InTopic hash (.other text) value (hash value) (.fixedBytes (hash value))

/-- The topics and the data of a log with these values, and what is shown for them. -/
inductive Logged (hash : SolValue → Bytes) :
    List EventParam → List SolValue → List Bytes → List SolValue → List SolValue → Prop where
  | nil : Logged hash [] [] [] [] []
  | indexed {param : EventParam} {ty : EventType} {value shown : SolValue} {topic : Bytes}
      {rest : List EventParam} {more data others : List SolValue} {topics : List Bytes} :
      param.indexed = true → abi.resolve param.ty = some ty → InTopic hash ty value topic shown →
        Logged hash rest more topics data others →
        Logged hash (param :: rest) (value :: more) (topic :: topics) data (shown :: others)
  | plain {param : EventParam} {value : SolValue} {rest : List EventParam}
      {more data others : List SolValue} {topics : List Bytes} :
      param.indexed = false → Logged hash rest more topics data others →
        Logged hash (param :: rest) (value :: more) topics (value :: data) (value :: others)

/-- Every parameter once, in the order of declaration. -/
def named : List EventParam → List SolValue → List (String × SolValue)
  | param :: rest, value :: values => (param.name, value) :: named rest values
  | _, _ => []

/-- A log of values is decoded to all of them, and whatever is decoded is paired right. -/
structure Faithful (hash : SolValue → Bytes) (topics : List Bytes) (data : Bytes) : Prop where
  complete : ∀ event values dataValues shown, abi.EventOf topics event →
      abi.decodeParams (abi.dataTypes event) data = some dataValues →
      abi.Logged hash event.inputs values topics.tail dataValues shown →
        abi.decodeLog topics data = some (event.signature, named event.inputs shown)
  own : ∀ signature pairs, abi.decodeLog topics data = some (signature, pairs) →
      ∃ event values, abi.EventOf topics event ∧ event.signature = signature ∧
        abi.decodeParams (abi.dataTypes event) data = some values ∧
          ∀ pair ∈ pairs, abi.Right topics values event.inputs pair

end Decoding

variable {abi : EventAbi} {topics : List Bytes} {values : List SolValue}
variable {before rest : List EventParam} {result : List (String × SolValue)}
variable {topicIdx dataIdx : Nat} {hash : SolValue → Bytes}

theorem label_of_named {param : EventParam} (isNamed : param.name ≠ "") (number : Nat) :
    label param number = param.name := if_neg isNamed

theorem decodeLog_eq_some_iff {data : Bytes} {signature : String}
    {pairs : List (String × SolValue)} :
    abi.decodeLog topics data = some (signature, pairs) ↔ ∃ event values,
        abi.EventOf topics event ∧ abi.decodeParams (abi.dataTypes event) data = some values ∧
          event.signature = signature ∧ abi.pairParams topics values event.inputs 1 0 [] = pairs := by
  simp only [decodeLog, Option.bind_eq_bind, Option.bind_eq_some_iff, Option.pure_def,
    Option.some.injEq, Prod.mk.injEq]
  constructor
  · rintro ⟨topic0, first, db, opened, event, found, values, decoded, same⟩
    cases isDb : abi.eventDb with
    | error reason =>
      rw [isDb] at opened
      cases opened
    | ok other =>
      rw [isDb] at opened
      cases opened
      exact ⟨event, values, ⟨db, topic0, isDb, first, found⟩, decoded, same⟩
  · rintro ⟨event, values, ⟨db, topic0, opened, first, found⟩, decoded, same⟩
    exact ⟨topic0, first, db, by rw [opened]; rfl, event, found, values, decoded, same⟩

/-- A cursor that still has a value has passed one for each parameter before, because an
exhausted one stays exhausted. -/
theorem pairParams_right
    (known : ∀ param ∈ rest, param.name ≠ "" ∧ (abi.resolve param.ty).isSome = true)
    (topicsBefore : topicIdx < topics.length → topicIdx = before.countP EventParam.indexed + 1)
    (dataBefore : dataIdx < values.length → dataIdx = before.countP abi.isDatum)
    (right : ∀ pair ∈ result, abi.Right topics values (before ++ rest) pair) :
    ∀ pair ∈ abi.pairParams topics values rest topicIdx dataIdx result,
      abi.Right topics values (before ++ rest) pair := by
  induction rest generalizing before topicIdx dataIdx result with
  | nil => exact right
  | cons param rest ih =>
    rcases List.forall_mem_cons.mp known with ⟨⟨isNamed, resolves⟩, knownRest⟩
    have split : before ++ param :: rest = (before ++ [param]) ++ rest := by simp
    have added : ∀ value, abi.Right topics values (before ++ param :: rest) (param.name, value) →
        ∀ pair ∈ result ++ [(label param result.length, value)],
          abi.Right topics values ((before ++ [param]) ++ rest) pair := by
      intro value isRight
      rw [← split, label_of_named isNamed]
      exact List.forall_mem_append.mpr ⟨right, List.forall_mem_singleton.mpr isRight⟩
    have passed : ∀ pair ∈ result, abi.Right topics values ((before ++ [param]) ++ rest) pair :=
      split ▸ right
    rw [pairParams, split]
    cases indexed : param.indexed with
    | true =>
      have sameData : dataIdx < values.length → dataIdx = (before ++ [param]).countP abi.isDatum := by
        simpa [isDatum, indexed] using dataBefore
      rw [if_pos rfl]
      cases found : topics[topicIdx]? with
      | none =>
        exact ih knownRest (fun left => by simp at found; omega) sameData passed
      | some topic =>
        have place := topicsBefore (List.getElem?_eq_some_iff.mp found).1
        refine ih knownRest (fun _ => by simp [indexed, place]) sameData (added _ ?_)
        refine ⟨before, param, rest, rfl, rfl, ?_⟩
        rw [if_pos indexed, ← place]
        exact ⟨topic, found, rfl⟩
    | false =>
      have datum : abi.isDatum param = true := by simp [isDatum, indexed, resolves]
      have sameTopics : topicIdx < topics.length →
          topicIdx = (before ++ [param]).countP EventParam.indexed + 1 := by
        simpa [indexed] using topicsBefore
      rw [if_neg Bool.false_ne_true]
      cases found : values[dataIdx]? with
      | none =>
        exact ih knownRest sameTopics (fun left => by simp at found; omega) passed
      | some value =>
        have place := dataBefore (List.getElem?_eq_some_iff.mp found).1
        refine ih knownRest sameTopics (fun _ => by simp [datum, place]) (added _ ?_)
        refine ⟨before, param, rest, rfl, rfl, ?_⟩
        rw [if_neg (by simp [indexed]), ← place]
        exact ⟨datum, found⟩

theorem topicValue_of_inTopic {ty : EventType} {value shown : SolValue} {topic : Bytes}
    (encoded : InTopic hash ty value topic shown) :
    topicValue (some ty) topic = shown := by
  have read : ∀ value : BitVec 256,
      BitVec.ofNat 256 (fromBigEndian (bigEndian 32 value.toNat)) = value := by
    intro value
    rw [Codec.fromBigEndian_bigEndian (value.isLt.trans_le (by decide)), BitVec.ofNat_toNat,
      BitVec.setWidth_eq]
  cases encoded with
  | address bytes => rfl
  | bool value => cases value <;> rfl
  | uint value bits => rw [topicValue, read]
  | int value bits => rw [topicValue, read]
  | padded text bytes => rfl
  | hashed text value => rfl

theorem getElem?_of_drop {Item : Type} {items rest : List Item} {index : Nat} {item : Item}
    (left : items.drop index = item :: rest) :
    items[index]? = some item ∧ items.drop (index + 1) = rest := by
  rw [← List.head?_drop, ← List.tail_drop, left]
  exact ⟨rfl, rfl⟩

theorem pairParams_of_logged {shown args data : List SolValue} {left : List Bytes}
    (logged : abi.Logged hash rest args left data shown)
    (isNamed : ∀ param ∈ rest, param.name ≠ "")
    (topicsLeft : topics.drop topicIdx = left) (dataLeft : values.drop dataIdx = data) :
    abi.pairParams topics values rest topicIdx dataIdx result = result ++ named rest shown := by
  induction logged generalizing topicIdx dataIdx result with
  | nil => simp [pairParams, named]
  | indexed indexed resolves encoded _ ih =>
    rcases getElem?_of_drop topicsLeft with ⟨found, next⟩
    rcases List.forall_mem_cons.mp isNamed with ⟨thisNamed, restNamed⟩
    rw [pairParams, if_pos indexed, found]
    simp only [resolves, topicValue_of_inTopic encoded, label_of_named thisNamed]
    rw [ih restNamed next dataLeft, List.append_assoc]
    rfl
  | plain plain _ ih =>
    rcases getElem?_of_drop dataLeft with ⟨found, next⟩
    rcases List.forall_mem_cons.mp isNamed with ⟨thisNamed, restNamed⟩
    rw [pairParams, if_neg (by simp [plain]), found]
    simp only [label_of_named thisNamed]
    rw [ih restNamed topicsLeft next, List.append_assoc]
    rfl

/-- With the embedded database, every log is decoded faithfully. -/
theorem decodeLog_faithful
    (embedded : abi.Embedded)
    (hash : SolValue → Bytes)
    (topics : List Bytes)
    (data : Bytes) :
    abi.Faithful hash topics data := by
  constructor
  · intro event args values shown isEvent decoded logged
    have isNamed := fun param member => (embedded topics event isEvent param member).1
    refine decodeLog_eq_some_iff.mpr ⟨event, values, isEvent, decoded, rfl, ?_⟩
    exact pairParams_of_logged logged isNamed List.drop_one rfl
  · intro signature pairs returned
    rcases decodeLog_eq_some_iff.mp returned with ⟨event, values, isEvent, decoded, same, rfl⟩
    refine ⟨event, values, isEvent, same, decoded, ?_⟩
    exact @pairParams_right abi topics values [] event.inputs [] 1 0
      (embedded topics event isEvent) (fun _ => rfl) (fun _ => rfl) (by simp)

/-- One event with an indexed account and its roles in the data. -/
def rolesAbi : EventAbi where
  eventDb := .ok fun _ => some
    ⟨"RolesAdded(address,uint256)", [⟨"account", "address", true⟩, ⟨"accountRoles", "uint256", false⟩]⟩
  resolve := fun ty => some (if ty = "address" then .address else .uint 256)
  decodeParams := fun _ data => some [.uint (BitVec.ofNat 256 (fromBigEndian data)) 256]

/-- A log whose topics and data are words, as a chain writes them. -/
theorem roles_decode_faithfully :
    let topics := [List.replicate 32 7, List.replicate 31 0 ++ [9]]
    let data := List.replicate 31 0 ++ [5]
    rolesAbi.Faithful (fun _ => []) topics data ∧
      rolesAbi.decodeLog topics data = some ("RolesAdded(address,uint256)",
        [("account", .address (List.replicate 19 0 ++ [9])), ("accountRoles", .uint 5 256)]) := by
  refine ⟨decodeLog_faithful ?_ _ _ _, rfl⟩
  rintro topics event ⟨db, topic0, opened, _, found⟩
  cases opened
  cases found
  decide

end EventAbi

end Axe.Decode

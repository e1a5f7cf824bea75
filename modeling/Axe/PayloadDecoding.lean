import Axe.Checks
import Axe.DecimalText
import Axe.JsonValue
import Axe.PrefixCodec

namespace Axe.Decode

open Axe.Codec (bigEndian fromBigEndian)

/-!
# Decoding payloads

A payload is a function call, a message of the token service, a governance proposal or
plain text, and nothing in its bytes says which.  Two cascades try these shapes in
turn: one prints what it finds, the other returns it as data.
-/

/-- The types of the values that are decoded. -/
inductive SolType where
  | uint (bits : Nat)
  | fixedBytes (size : Nat)
  | address
  | bytes
  | string
  deriving DecidableEq

def SolType.text : SolType → String
  | .uint bits => "uint" ++ decimalText bits
  | .fixedBytes size => "bytes" ++ decimalText size
  | .address => "address"
  | .bytes => "bytes"
  | .string => "string"

/-- A decoded value. -/
inductive SolValue where
  | bool (value : Bool)
  | int (value : BitVec 256) (bits : Nat)
  | uint (value : BitVec 256) (bits : Nat)
  | fixedBytes (value : Bytes)
  | address (value : Bytes)
  | function (value : Bytes)
  | bytes (value : Bytes)
  | string (value : String)
  | array (values : List SolValue)
  | fixedArray (values : List SolValue)
  | tuple (values : List SolValue)

mutual

/-- The leaf of a decoded argument as JSON; `debug` is the library's rendering of the rest. -/
def solValueToJson (debug : SolValue → String) : SolValue → Json Empty
  | .bool value => .bool value
  | .uint value _ => .text (decimalText value.toNat)
  | .int value _ =>
    .text ((if value.toInt < 0 then "-" else "") ++ decimalText value.toInt.natAbs)
  | .address value => .text ("0x" ++ hexEncode value)
  -- The library keeps the bytes at the start of a whole word.
  | .fixedBytes value =>
    .text ("0x" ++ hexEncode (value ++ List.replicate (32 - value.length) 0))
  | .bytes value =>
    if value.length ≤ 64 then
      .text ("0x" ++ hexEncode value)
    else
      .text ("0x" ++ hexEncode (value.take 32) ++ "... (" ++ decimalText value.length ++ " bytes)")
  | .string value => .text value
  | .array values => .array (solValuesToJson debug values)
  | .tuple values => .array (solValuesToJson debug values)
  | .function value => .text (debug (.function value))
  | .fixedArray values => .text (debug (.fixedArray values))

def solValuesToJson (debug : SolValue → String) : List SolValue → List (Json Empty)
  | [] => []
  | value :: values => solValueToJson debug value :: solValuesToJson debug values

end

mutual

/-- A value as it is printed, apart from colours; `showAddress` is the checksummed form. -/
def formatValue (showAddress : Bytes → String) (debug : SolValue → String) : SolValue → String
  | .bool value => if value then "true" else "false"
  | .uint value _ => decimalText value.toNat
  | .int value _ => (if value.toInt < 0 then "-" else "") ++ decimalText value.toInt.natAbs
  | .address value => showAddress value
  -- Only the bytes of the type are printed, not the whole word.
  | .fixedBytes value => "0x" ++ hexEncode value
  | .bytes value =>
    if value.length ≤ 64 then
      "0x" ++ hexEncode value
    else
      "0x" ++ hexEncode (value.take 32) ++ "… (" ++ decimalText value.length ++ " bytes)"
  | .string value => "\"" ++ value ++ "\""
  | .array values => "[" ++ ", ".intercalate (formatValues showAddress debug values) ++ "]"
  | .fixedArray values => "[" ++ ", ".intercalate (formatValues showAddress debug values) ++ "]"
  | .tuple values => "(" ++ ", ".intercalate (formatValues showAddress debug values) ++ ")"
  | .function value => debug (.function value)

def formatValues (showAddress : Bytes → String) (debug : SolValue → String) :
    List SolValue → List String
  | [] => []
  | value :: values => formatValue showAddress debug value :: formatValues showAddress debug values

end

/-- What both renderers show of a byte string: all of it, or its first word. -/
def shownBytes (value : Bytes) : Bytes := if value.length ≤ 64 then value else value.take 32

/-- The printed form and the returned one cut a byte string at the same place, if at all. -/
theorem bytes_are_cut_alike
    (showAddress : Bytes → String)
    (debug : SolValue → String)
    (value : Bytes) :
    ∃ printed returned,
      formatValue showAddress debug (.bytes value) = "0x" ++ hexEncode (shownBytes value) ++ printed ∧
        solValueToJson debug (.bytes value) =
          .text ("0x" ++ hexEncode (shownBytes value) ++ returned) ∧
        (printed = "" ↔ value.length ≤ 64) ∧ (returned = "" ↔ value.length ≤ 64) := by
  by_cases short : value.length ≤ 64
  · refine ⟨"", "", ?_, ?_, ?_, ?_⟩ <;> simp [formatValue, solValueToJson, shownBytes, short]
  · refine ⟨"… (" ++ decimalText value.length ++ " bytes)",
      "... (" ++ decimalText value.length ++ " bytes)", ?_, ?_, ?_, ?_⟩ <;>
      simp [formatValue, solValueToJson, shownBytes, short, String.append_assoc]

structure Param where
  name : String
  ty : String
  deriving DecidableEq

structure Function where
  signature : String
  inputs : List Param
  deriving DecidableEq

/-- The embedded functions by their selector, the decoders of the ABI library, and the form
in which values are returned: whether the cascades agree does not depend on it. -/
structure Abi (Json : Type) where
  functionDb : Except String (Bytes → Option Function)
  decodeInput : Function → Bytes → Except String (List SolValue)
  decodeParams : List SolType → Bytes → Option (List SolValue)
  solValueToJson : SolValue → Json

/-! ## The schemas -/

structure ItsMessage where
  name : String
  types : List SolType
  labels : List String
  values : List SolValue

/-- The number in the first word, if it has eight bytes. -/
def itsMessageType (data : Bytes) : Option Nat :=
  if data.length < 32 ∨ (data.take 24).any (· ≠ 0) then
    none
  else
    some (fromBigEndian ((data.drop 24).take 8))

/-- The name, the types and the labels of a message. -/
def itsMessageDef : Nat → Option (String × List SolType × List String)
  | 0 => some ("INTERCHAIN_TRANSFER",
      [.uint 256, .fixedBytes 32, .bytes, .bytes, .uint 256, .bytes],
      ["messageType", "tokenId", "sourceAddress", "destinationAddress", "amount", "data"])
  | 1 => some ("DEPLOY_INTERCHAIN_TOKEN",
      [.uint 256, .fixedBytes 32, .string, .string, .uint 8, .bytes],
      ["messageType", "tokenId", "name", "symbol", "decimals", "minter"])
  | 3 => some ("SEND_TO_HUB", [.uint 256, .string, .bytes],
      ["messageType", "destinationChain", "payload"])
  | 4 => some ("RECEIVE_FROM_HUB", [.uint 256, .string, .bytes],
      ["messageType", "sourceChain", "payload"])
  | 5 => some ("LINK_TOKEN", [.uint 256, .fixedBytes 32, .uint 8, .bytes, .bytes, .bytes],
      ["messageType", "tokenId", "tokenManagerType", "sourceTokenAddress",
        "destinationTokenAddress", "linkParams"])
  | 6 => some ("REGISTER_TOKEN_METADATA", [.uint 256, .bytes, .uint 8],
      ["messageType", "tokenAddress", "decimals"])
  | _ => none

/-- The name of a command. -/
def governanceCommandName : Nat → Option String
  | 0 => some "ScheduleTimeLockProposal"
  | 1 => some "CancelTimeLockProposal"
  | 2 => some "ApproveOperatorProposal"
  | 3 => some "CancelOperatorApproval"
  | _ => none

structure GovernanceProposal where
  command : Nat
  commandName : String
  target : Bytes
  callData : Bytes
  nativeValue : BitVec 256
  eta : BitVec 256

/-- The first second of the year 3000: no timelock ends later. -/
def maxSaneEtaSecs : Nat := 32503680000

/-- A small word, or an aligned one that points into the data, is no contract address. -/
def targetLooksLikeAbiOffset (target : Bytes) (dataLen : Nat) : Bool :=
  let word := fromBigEndian target
  word < 0x10000 || (word % 32 = 0 && word < dataLen)

structure Field where
  name : String
  ty : String
  value : SolValue

structure DecodedArgument (Json : Type) where
  name : String
  ty : String
  value : Json

structure DecodedCall (Json : Type) where
  signature : String
  arguments : List (DecodedArgument Json)

/-- The result of decoding. -/
inductive DecodedPayload (Json : Type) where
  | functionCall (call : DecodedCall Json)
  | itsMessage (name : String) (fields : List (DecodedArgument Json))
  | governanceProposal (command : Nat) (commandName target nativeValue : String) (eta : Nat)
      (call : Option (DecodedCall Json))
  | text (text : String)
  | unrecognised (reason : String)

def callFields (inputs : List Param) (values : List SolValue) : List Field :=
  (inputs.zip values).zipIdx.map fun ((param, value), index) =>
    ⟨if param.name = "" then "arg" ++ decimalText index else param.name, param.ty, value⟩

def ItsMessage.fields (message : ItsMessage) : List Field :=
  (message.values.zip (message.labels.zip message.types)).map fun (value, label, ty) =>
    ⟨label, ty.text, value⟩

def plainText (data : Bytes) : Option String :=
  if data ≠ [] ∧ data.all fun byte =>
      (0x21 ≤ byte && byte ≤ 0x7e) || [0x20, 0x09, 0x0a, 0x0c, 0x0d].contains byte then
    some (String.ofList (data.map fun byte => Char.ofNat byte.toNat))
  else
    none

/-! ## What is printed -/

/-- The first line of what is printed. -/
inductive Heading where
  | call (signature : String)
  | its (name : String)
  | governance (commandName : String)
  | text (text : String)
  | decodedAs (types : List SolType)
  | element (index : Nat) (selector : Bytes)

/-- What is printed: a heading and fields with blocks below them. -/
inductive Block where
  | mk (heading : Heading) (fields : List (Field × List Block))

def Block.heading : Block → Heading
  | .mk heading _ => heading

def Block.fields : Block → List (Field × List Block)
  | .mk _ fields => fields

/-- What prints nested data, unless the depth is used up. -/
abbrev Nested := Option (Bytes → Option Block)

def Nested.print (nested : Nested) (data : Bytes) : List Block :=
  match nested with
  | some printer => if 4 ≤ data.length then (printer data).toList else []
  | none => []

section Decoding

variable {Json : Type} (abi : Abi Json)

/-- Read a token service message. -/
def parseIts (data : Bytes) : Option ItsMessage :=
  (itsMessageType data).bind fun msgType =>
    (itsMessageDef msgType).bind fun (name, types, labels) =>
      (abi.decodeParams types data).map fun values => ⟨name, types, labels, values⟩

/-- Read a governance proposal. -/
def parseGovernance (data : Bytes) : Option GovernanceProposal :=
  if data.length < 6 * 32 ∨ (data.take 31).any (· ≠ 0) then
    none
  else
    (governanceCommandName (data.getD 31 0).toNat).bind fun commandName =>
      if ((data.drop 32).take 12).any (· ≠ 0) ∨ ((data.drop 64).take 31).any (· ≠ 0) ∨
          data.getD 95 0 ≠ 0xa0 then
        none
      else
        match abi.decodeParams [.uint 256, .address, .bytes, .uint 256, .uint 256] data with
        | some [_, .address target, .bytes callData, .uint nativeValue _, .uint eta _] =>
          if targetLooksLikeAbiOffset target data.length ∨ maxSaneEtaSecs < eta.toNat then
            none
          else
            some ⟨(data.getD 31 0).toNat, commandName, target, callData, nativeValue, eta⟩
        | _ => none

def Field.argument (field : Field) : DecodedArgument Json :=
  ⟨field.name, field.ty, abi.solValueToJson field.value⟩

/-- Read a call by its selector. -/
def decodeCall (data : Bytes) : Except String (Option (DecodedCall Json)) :=
  if data.length < 4 then
    .ok none
  else do
    let functions ← abi.functionDb
    match functions (data.take 4) with
    | none => .ok none
    | some func => do
      let values ← abi.decodeInput func (data.drop 4)
      .ok (some ⟨func.signature, (callFields func.inputs values).map (Field.argument abi)⟩)

def decodeIts (data : Bytes) : Option (DecodedPayload Json) :=
  (parseIts abi data).map fun message =>
    .itsMessage message.name (message.fields.map (Field.argument abi))

def isHubFrame (data : Bytes) : Bool := itsMessageType data = some 3 || itsMessageType data = some 4

/-- Classify a payload: a call, a message, a proposal, or unknown bytes. -/
def decodePayload (data : Bytes) : Except String (DecodedPayload Json) := do
  match ← decodeCall abi data with
  | some call => .ok (.functionCall call)
  | none =>
    match (if isHubFrame data then decodeIts abi data else none) with
    | some its => .ok its
    | none =>
      match parseGovernance abi data with
      | some proposal => do
        let call ← decodeCall abi proposal.callData
        .ok (.governanceProposal proposal.command proposal.commandName
          ("0x" ++ hexEncode proposal.target) (decimalText proposal.nativeValue.toNat)
          (min proposal.eta.toNat (2 ^ 64 - 1)) call)
      | none =>
        match decodeIts abi data with
        | some its => .ok its
        | none =>
          match plainText data with
          | some text => .ok (.text text)
          | none => .ok (.unrecognised
              "not a known selector, ITS message, governance proposal or text")

/-! ## The printer -/

def printDecoded (nested : Nested) (inputs : List Param) (values : List SolValue) :
    List (Field × List Block) :=
  (callFields inputs values).map fun field =>
    (field,
      match field.ty, field.value with
      | "bytes", .bytes inner => nested.print inner
      | "bytes[]", .array items =>
        if nested.isSome then
          items.zipIdx.flatMap fun (item, index) =>
            match item with
            | .bytes inner =>
              if 4 ≤ inner.length then
                .mk (.element index (inner.take 4)) [] :: nested.print inner
              else
                []
            | _ => []
        else
          []
      | _, _ => [])

inductive Shape where
  | call (func : Function) (values : List SolValue)
  | its (message : ItsMessage)
  | governance (proposal : GovernanceProposal)
  | unknown

def otherShape (data : Bytes) : Shape :=
  match (if isHubFrame data then parseIts abi data else none) with
  | some message => .its message
  | none =>
    match parseGovernance abi data with
    | some proposal => .governance proposal
    | none =>
      match parseIts abi data with
      | some message => .its message
      | none => .unknown

/-- What the data is, as both readers see it. -/
def shapeOf (data : Bytes) : Except String Shape :=
  if data.length < 4 then
    .ok (otherShape abi data)
  else do
    let functions ← abi.functionDb
    match functions (data.take 4) with
    | some func => do
      let values ← abi.decodeInput func (data.drop 4)
      .ok (.call func values)
    | none => .ok (otherShape abi data)

def callOf (func : Function) (values : List SolValue) : DecodedCall Json :=
  ⟨func.signature, (callFields func.inputs values).map (Field.argument abi)⟩

/-- The decoded payload of a shape. -/
def payloadOf (data : Bytes) : Shape → Except String (DecodedPayload Json)
  | .call func values => .ok (.functionCall (callOf abi func values))
  | .its message => .ok (.itsMessage message.name (message.fields.map (Field.argument abi)))
  | .governance proposal => do
    let call ← decodeCall abi proposal.callData
    .ok (.governanceProposal proposal.command proposal.commandName
      ("0x" ++ hexEncode proposal.target) (decimalText proposal.nativeValue.toNat)
      (min proposal.eta.toNat (2 ^ 64 - 1)) call)
  | .unknown =>
    match plainText data with
    | some text => .ok (.text text)
    | none => .ok (.unrecognised "not a known selector, ITS message, governance proposal or text")

def Shape.asCall : Shape → Option (DecodedCall Json)
  | .call func values => some (callOf abi func values)
  | _ => none

theorem asCall_otherShape (data : Bytes) : (otherShape abi data).asCall abi = none := by
  unfold otherShape
  split
  · rfl
  · split
    · rfl
    · split <;> rfl

theorem decodeCall_eq (data : Bytes) :
    decodeCall abi data = (shapeOf abi data).map (Shape.asCall abi) := by
  unfold decodeCall shapeOf
  split
  · simp only [Except.map, asCall_otherShape]
  · cases abi.functionDb with
    | error reason => rfl
    | ok functions =>
      simp only [bind, Except.bind]
      cases functions (data.take 4) with
      | none => simp only [Except.map, asCall_otherShape]
      | some func =>
        simp only []
        cases abi.decodeInput func (data.drop 4) <;> rfl

variable {data : Bytes}

theorem shapeOf_of_no_call {shape : Shape} (found : shapeOf abi data = .ok shape)
    (free : shape.asCall abi = none) : shape = otherShape abi data := by
  unfold shapeOf at found
  split at found
  · exact (Except.ok.inj found).symm
  · cases database : abi.functionDb with
    | error reason => simp [database, bind, Except.bind] at found
    | ok functions =>
      simp only [database, bind, Except.bind] at found
      cases known : functions (data.take 4) with
      | none =>
        rw [known] at found
        exact (Except.ok.inj found).symm
      | some func =>
        simp only [known] at found
        cases decoded : abi.decodeInput func (data.drop 4) with
        | error reason => simp [decoded] at found
        | ok values =>
          simp only [decoded, Except.ok.injEq] at found
          subst found
          simp [Shape.asCall] at free

theorem decodePayload_eq (data : Bytes) :
    decodePayload abi data = (shapeOf abi data).bind (payloadOf abi data) := by
  unfold decodePayload
  rw [decodeCall_eq]
  cases found : shapeOf abi data with
  | error reason => rfl
  | ok shape =>
    cases called : shape.asCall abi with
    | some call => cases shape <;> simp_all [Shape.asCall, Except.map, bind, Except.bind, payloadOf]
    | none =>
      rw [shapeOf_of_no_call abi found called]
      simp only [Except.map, bind, Except.bind, otherShape, decodeIts]
      by_cases hub : isHubFrame data = true
      · simp only [hub, if_true]
        cases parseIts abi data with
        | some message => rfl
        | none => cases parseGovernance abi data <;> rfl
      · simp only [hub, if_false, Bool.false_eq_true]
        cases parseGovernance abi data with
        | some proposal => rfl
        | none => cases parseIts abi data <;> rfl

@[simp] theorem argument_printDecoded (nested : Nested) (inputs : List Param)
    (values : List SolValue) :
    (printDecoded nested inputs values).map (fun field => field.1.argument abi) =
      (callFields inputs values).map (Field.argument abi) := by
  simp [printDecoded]

variable {found : Option (DecodedCall Json)}

variable {proposal : GovernanceProposal}

end Decoding

end Axe.Decode

import Axe.AbiLayout
import Axe.PayloadDecoding
import Mathlib.Data.List.Forall2

namespace Axe.Decode

open Axe.AbiLayout
open Axe.Codec (bigEndian fromBigEndian fromBigEndian_bigEndian bigEndian_length)

/-!
# Canonical payloads

The canonical encodings of the token service and of governance start with the same
small numbers.  The decoder tells them apart by the words that follow: an offset, an
address, a timestamp.
-/

/-- The value is one of the type, within its bounds. -/
def HasType : SolType → SolValue → Prop
  | .uint bits, .uint value width => width = bits ∧ value.toNat < 2 ^ bits
  | .fixedBytes size, .fixedBytes bytes => bytes.length = size ∧ size ≤ 32
  | .address, .address bytes => bytes.length = 20
  | .bytes, .bytes _ => True
  | .string, .string _ => True
  | _, _ => False

/-- A value as a word or as content. -/
def pieceOf : SolValue → Piece
  | .uint value _ => .word (bigEndian 32 value.toNat)
  | .fixedBytes bytes => .word (bytes ++ List.replicate (32 - bytes.length) 0)
  | .address bytes => .word (List.replicate (32 - bytes.length) 0 ++ bytes)
  | .bytes bytes => .content bytes
  | .string text => .content text.toUTF8.data.toList
  | _ => .content []

/-- The canonical encoding of a list of parameters. -/
def encodeParams (values : List SolValue) : Bytes := encode (values.map pieceOf)

/-- The types whose values are encoded as content. -/
def SolType.dynamic : SolType → Bool
  | .bytes | .string => true
  | _ => false

/-- What is asked of the ABI library and of the database of functions. -/
structure FollowsStandard {Json : Type} (abi : Abi Json) : Prop where
  inverts : ∀ types values, List.Forall₂ HasType types values →
    (encodeParams values).length < 256 ^ 32 →
      abi.decodeParams types (encodeParams values) = some values
  refuses : ∀ types data index, (types.map SolType.dynamic)[index]? = some true →
    data.length ≤ fromBigEndian ((data.drop (32 * index)).take 32) →
      abi.decodeParams types data = none
  selectors : ∃ functions, abi.functionDb = .ok functions ∧ functions [0, 0, 0, 0] = none

/-! ## A decoder that follows the standard -/

/-- Read a value of a type back from its word or content. -/
def valueOf : SolType → Piece → Option SolValue
  | .uint bits, .word bytes =>
    if fromBigEndian bytes < 2 ^ bits then
      some (.uint (BitVec.ofNat 256 (fromBigEndian bytes)) bits)
    else
      none
  | .fixedBytes size, .word bytes => some (.fixedBytes (bytes.take size))
  | .address, .word bytes => some (.address (bytes.drop 12))
  | .bytes, .content bytes => some (.bytes bytes)
  | .string, .content bytes => (String.fromUTF8? ⟨bytes.toArray⟩).map .string
  | _, _ => none

/-- Read the values of all types back. -/
def valuesOf : List SolType → List Piece → Option (List SolValue)
  | ty :: types, piece :: pieces =>
    (valueOf ty piece).bind fun value => (valuesOf types pieces).map (value :: ·)
  | _, _ => some []

/-- The decoder of the standard: read the layout, then the values. -/
def decodeStandard (types : List SolType) (data : Bytes) : Option (List SolValue) :=
  (read data 0 (types.map SolType.dynamic)).bind (valuesOf types)

theorem valueOf_pieceOf {ty : SolType} {value : SolValue} (typed : HasType ty value) :
    valueOf ty (pieceOf value) = some value := by
  cases ty <;> cases value <;> simp only [HasType] at typed
  case uint.uint bits value width =>
    obtain ⟨rfl, small⟩ := typed
    have reads := @fromBigEndian_bigEndian 32 value.toNat value.isLt
    simp [pieceOf, valueOf, reads, small]
  case fixedBytes.fixedBytes size bytes => simp [pieceOf, valueOf, ← typed.1]
  case address.address bytes => simp [pieceOf, valueOf, typed]
  case bytes.bytes bytes => rfl
  case string.string text =>
    have reads : String.fromUTF8? text.toUTF8 = some text := by
      rw [String.fromUTF8?, String.toUTF8_eq_toByteArray, dif_pos text.isValidUTF8]
      rfl
    simp only [pieceOf, valueOf, Array.toArray_toList, reads, Option.map_some]

variable {types : List SolType} {values : List SolValue}

theorem valuesOf_pieceOf (typed : List.Forall₂ HasType types values) :
    valuesOf types (values.map pieceOf) = some values := by
  induction typed with
  | nil => rfl
  | cons first _ ih => simp [valuesOf, valueOf_pieceOf first, ih]

theorem dynamic_pieceOf (typed : List.Forall₂ HasType types values) :
    types.map SolType.dynamic = (values.map pieceOf).map Piece.dynamic := by
  induction typed with
  | nil => rfl
  | @cons ty value _ _ first _ ih =>
    have same : ty.dynamic = (pieceOf value).dynamic := by
      cases ty <;> cases value <;> first | rfl | exact absurd first (by simp [HasType])
    simp only [List.map_cons, same, ih]

theorem length_of_word {ty : SolType} {value : SolValue} (typed : HasType ty value) {bytes : Bytes}
    (word : pieceOf value = .word bytes) : bytes.length = 32 := by
  cases ty <;> cases value <;> simp only [HasType] at typed <;>
    simp only [pieceOf, Piece.word.injEq, reduceCtorEq] at word
  case uint.uint => rw [← word, bigEndian_length]
  case fixedBytes.fixedBytes =>
    rw [← word, List.length_append, List.length_replicate]
    omega
  case address.address =>
    rw [← word, List.length_append, List.length_replicate]
    omega

theorem word_pieceOf (typed : List.Forall₂ HasType types values) (bytes : Bytes)
    (member : Piece.word bytes ∈ values.map pieceOf) : bytes.length = 32 := by
  induction typed with
  | nil => simp at member
  | cons first _ ih =>
    rcases List.mem_cons.mp member with here | later
    · exact length_of_word first here.symm
    · exact ih later

theorem decodeStandard_encodeParams (typed : List.Forall₂ HasType types values)
    (fits : (encodeParams values).length < 256 ^ 32) :
    decodeStandard types (encodeParams values) = some values := by
  rw [decodeStandard, dynamic_pieceOf typed, encodeParams,
    read_encode (word_pieceOf typed) fits, Option.bind_some, valuesOf_pieceOf typed]

/-! ## The first words -/

theorem bigEndian_small
    {value : Nat}
    (small : value < 256)
    (count : Nat) :
    bigEndian (count + 1) value = List.replicate count 0 ++ [UInt8.ofNat value] := by
  have zeros : ∀ count, bigEndian count 0 = List.replicate count 0 := by
    intro count
    induction count with
    | zero => rfl
    | succ count ih => simp [bigEndian, ih, List.replicate_succ']
  rw [bigEndian, Nat.div_eq_of_lt small, zeros]

theorem fromBigEndian_zeros (count : Nat) (bytes : Bytes) :
    fromBigEndian (List.replicate count 0 ++ bytes) = fromBigEndian bytes := by
  induction count with
  | zero => rfl
  | succ count ih => simpa [List.replicate_succ, fromBigEndian] using ih

/-- The first word of the data is a small number. -/
structure StartsWith (number : Nat) (data : Bytes) : Prop where
  small : number < 256
  word : ∃ rest, data = List.replicate 31 0 ++ (UInt8.ofNat number :: rest)

theorem StartsWith.of_append {number : Nat} (small : number < 256) (rest : Bytes) :
    StartsWith number (bigEndian 32 number ++ rest) :=
  ⟨small, rest, by rw [bigEndian_small small, List.append_assoc]; rfl⟩

section Start

variable {Json : Type} {abi : Abi Json} {number : Nat} {data : Bytes}

theorem itsMessageType_of_start (starts : StartsWith number data) :
    itsMessageType data = some number := by
  obtain ⟨small, rest, rfl⟩ := starts
  have value : (UInt8.ofNat number).toNat = number := by simp; omega
  simp [itsMessageType, fromBigEndian, List.replicate, value]

theorem command_of_start (starts : StartsWith number data) : (data.getD 31 0).toNat = number := by
  obtain ⟨small, rest, rfl⟩ := starts
  have value : (UInt8.ofNat number).toNat = number := by simp; omega
  simp [List.replicate, value]

theorem shapeOf_of_start (standard : FollowsStandard abi) (starts : StartsWith number data) :
    shapeOf abi data = .ok (otherShape abi data) := by
  obtain ⟨functions, loaded, unknown⟩ := standard.selectors
  obtain ⟨small, rest, rfl⟩ := starts
  simp [shapeOf, loaded, bind, Except.bind, unknown]

theorem parseGovernance_of_offset (other : data.getD 95 0 ≠ 0xa0) :
    parseGovernance abi data = none := by
  unfold parseGovernance
  split
  · rfl
  · cases governanceCommandName (data.getD 31 0).toNat with
    | none => rfl
    | some name => exact if_pos (.inr (.inr other))

theorem parseGovernance_of_command (unknown : governanceCommandName (data.getD 31 0).toNat = none) :
    parseGovernance abi data = none := by
  unfold parseGovernance
  split
  · rfl
  · rw [unknown, Option.bind_none]

theorem isHubFrame_of_start (starts : StartsWith number data) :
    isHubFrame data = (decide (number = 3) || decide (number = 4)) := by
  simp [isHubFrame, itsMessageType_of_start starts]

theorem otherShape_of_its {message : ItsMessage} (parsed : parseIts abi data = some message)
    (free : isHubFrame data = true ∨ parseGovernance abi data = none) :
    otherShape abi data = .its message := by
  rcases free with hub | free
  · simp [otherShape, hub, parsed]
  · by_cases hub : isHubFrame data = true <;> simp [otherShape, hub, free, parsed]

end Start

/-! ## The two families -/

theorem encodeParams_uint
    (value : BitVec 256)
    (width : Nat)
    (rest : List SolValue) :
    encodeParams (.uint value width :: rest) = bigEndian 32 value.toNat ++
        (heads (32 * (rest.length + 1)) (rest.map pieceOf) ++ tails (rest.map pieceOf)) := by
  simp [encodeParams, encode, heads, tails, pieceOf]

theorem getD_third_word {first second : Bytes} (firstWhole : first.length = 32)
    (secondWhole : second.length = 32) {value : Nat} (small : value < 256) (rest : Bytes) :
    (first ++ (second ++ (bigEndian 32 value ++ rest))).getD 95 0 = UInt8.ofNat value := by
  rw [List.getD_eq_getElem?_getD, List.getElem?_append_right (by omega),
    List.getElem?_append_right (by omega), bigEndian_small small, firstWhole, secondWhole]
  simp [List.replicate]

section Families

variable {Json : Type} {abi : Abi Json}

theorem six_words_are_no_proposal {msgType : BitVec 256} {tokenId : Bytes} (whole : tokenId.length = 32)
    {third fourth fifth sixth : SolValue} {bytes : Bytes} (dynamic : pieceOf third = .content bytes) :
    parseGovernance abi (encodeParams
      [.uint msgType 256, .fixedBytes tokenId, third, fourth, fifth, sixth]) = none := by
  apply parseGovernance_of_offset
  have token : pieceOf (.fixedBytes tokenId) = .word tokenId := by simp [pieceOf, whole]
  simp only [encodeParams_uint, List.map_cons, token, dynamic, heads, List.length_cons,
    List.length_nil, List.append_assoc]
  rw [getD_third_word (bigEndian_length _ _) whole (by decide)]
  decide

variable {types : List SolType} {labels : List String} {values : List SolValue}

/-- No message of the token service is taken for a proposal. -/
theorem its_is_not_governance
    {msgType : Nat}
    {name : String}
    (known : itsMessageDef msgType = some (name, types, labels))
    (typed : List.Forall₂ HasType types values)
    (first : values.head? = some (.uint (BitVec.ofNat 256 msgType) 256))
    (starts : StartsWith msgType (encodeParams values)) :
    isHubFrame (encodeParams values) = true ∨ parseGovernance abi (encodeParams values) = none := by
  rw [isHubFrame_of_start starts]
  have command := command_of_start starts
  unfold itsMessageDef at known
  split at known <;> simp only [Option.some.injEq, Prod.mk.injEq, reduceCtorEq] at known
  case h_3 => exact .inl rfl
  case h_4 => exact .inl rfl
  case h_5 => exact .inr (parseGovernance_of_command (by rw [command]; rfl))
  case h_6 => exact .inr (parseGovernance_of_command (by rw [command]; rfl))
  all_goals
    obtain ⟨-, rfl, -⟩ := known
    obtain ⟨_, _, -, typed2, rfl⟩ := List.forall₂_cons_left_iff.mp typed
    obtain ⟨second, _, isToken, typed3, rfl⟩ := List.forall₂_cons_left_iff.mp typed2
    obtain ⟨third, _, isDynamic, typed4, rfl⟩ := List.forall₂_cons_left_iff.mp typed3
    obtain ⟨fourth, _, -, typed5, rfl⟩ := List.forall₂_cons_left_iff.mp typed4
    obtain ⟨fifth, _, -, typed6, rfl⟩ := List.forall₂_cons_left_iff.mp typed5
    obtain ⟨sixth, _, -, typed7, rfl⟩ := List.forall₂_cons_left_iff.mp typed6
    obtain rfl := List.forall₂_nil_left_iff.mp typed7
    obtain rfl := Option.some.inj first
    cases second <;> simp only [HasType] at isToken
    cases third <;> simp only [HasType] at isDynamic
    exact .inr (six_words_are_no_proposal isToken.1 rfl)

theorem shapeOf_its (standard : FollowsStandard abi) {msgType : Nat} {name : String}
    (known : itsMessageDef msgType = some (name, types, labels))
    (typed : List.Forall₂ HasType types values)
    (first : values.head? = some (.uint (BitVec.ofNat 256 msgType) 256))
    (fits : (encodeParams values).length < 256 ^ 32) :
    shapeOf abi (encodeParams values) = .ok (.its ⟨name, types, labels, values⟩) := by
  have small : msgType < 256 := by
    unfold itsMessageDef at known
    split at known <;> first | omega | simp at known
  have starts : StartsWith msgType (encodeParams values) := by
    obtain ⟨rest, rfl⟩ := List.head?_eq_some_iff.mp first
    rw [encodeParams_uint, BitVec.toNat_ofNat, Nat.mod_eq_of_lt (by omega)]
    exact .of_append small _
  have parsed : parseIts abi (encodeParams values) = some ⟨name, types, labels, values⟩ := by
    simp [parseIts, itsMessageType_of_start starts, known, standard.inverts types values typed fits]
  rw [shapeOf_of_start standard starts,
    otherShape_of_its parsed (its_is_not_governance known typed first starts)]

/-- The parameters of a governance proposal as values. -/
def proposalValues (command : Nat) (target callData : Bytes) (nativeValue eta : BitVec 256) :
    List SolValue :=
  [.uint (BitVec.ofNat 256 command) 256, .address target, .bytes callData, .uint nativeValue 256,
    .uint eta 256]

theorem encodeParams_proposal {command : Nat} (small : command < 256) {target : Bytes}
    (whole : target.length = 20) (callData : Bytes) (nativeValue eta : BitVec 256) :
    encodeParams (proposalValues command target callData nativeValue eta) =
      bigEndian 32 command ++ ((List.replicate 12 0 ++ target) ++ (bigEndian 32 160 ++
        (bigEndian 32 nativeValue.toNat ++ (bigEndian 32 eta.toNat ++ sized callData)))) := by
  rw [proposalValues, encodeParams_uint, BitVec.toNat_ofNat, Nat.mod_eq_of_lt (by omega)]
  simp [pieceOf, heads, tails, whole]

theorem shapeOf_proposal (standard : FollowsStandard abi) {command : Nat} {commandName : String}
    {target callData : Bytes} {nativeValue eta : BitVec 256}
    (known : governanceCommandName command = some commandName) (whole : target.length = 20)
    (large : 0x10000 ≤ fromBigEndian target)
    (outside : (encodeParams (proposalValues command target callData nativeValue eta)).length ≤
      fromBigEndian target)
    (sane : eta.toNat ≤ maxSaneEtaSecs)
    (fits : (encodeParams (proposalValues command target callData nativeValue eta)).length <
      256 ^ 32) :
    shapeOf abi (encodeParams (proposalValues command target callData nativeValue eta)) =
      .ok (.governance ⟨command, commandName, target, callData, nativeValue, eta⟩) := by
  have small : command < 256 := by
    unfold governanceCommandName at known
    split at known <;> first | omega | simp at known
  have layout := encodeParams_proposal small whole callData nativeValue eta
  have typed : List.Forall₂ HasType [.uint 256, .address, .bytes, .uint 256, .uint 256]
      (proposalValues command target callData nativeValue eta) := by
    have bounds := (BitVec.ofNat 256 command).isLt
    simp [proposalValues, HasType, whole, nativeValue.isLt, eta.isLt, -BitVec.toNat_ofNat, bounds]
  have decoded := standard.inverts _ _ typed fits
  have starts : StartsWith command
      (encodeParams (proposalValues command target callData nativeValue eta)) := by
    rw [layout]
    exact .of_append small _
  generalize encodeParams (proposalValues command target callData nativeValue eta) = data at *
  have targetWord : (data.drop 32).take 32 = List.replicate 12 0 ++ target := by
    rw [layout, List.drop_left' (bigEndian_length _ _), List.take_left' (by simp [whole])]
  -- A word that is an address cannot be the offset of a chain's name.
  have noMessage : isHubFrame data = true → parseIts abi data = none := by
    intro hub
    have refused : abi.decodeParams [.uint 256, .string, .bytes] data = none := by
      apply standard.refuses _ _ 1 rfl
      rw [Nat.mul_one, targetWord, fromBigEndian_zeros]
      exact outside
    rw [isHubFrame_of_start starts] at hub
    simp only [Bool.or_eq_true, decide_eq_true_eq] at hub
    rcases hub with rfl | rfl <;>
      simp [parseIts, itsMessageType_of_start starts, itsMessageDef, refused]
  have offset : data.getD 95 0 = 0xa0 := by
    rw [layout, getD_third_word (bigEndian_length _ _) (by simp [whole]) (by decide)]
    rfl
  have long : 6 * 32 ≤ data.length := by
    rw [layout]
    simp only [sized, List.length_append, bigEndian_length, List.length_replicate, whole]
    omega
  have zeros : (data.take 31).any (· ≠ 0) = false := by
    obtain ⟨-, rest, rfl⟩ := starts
    rw [List.take_left' (by simp)]
    decide
  have targetZeros : ((data.drop 32).take 12).any (· ≠ 0) = false := by
    rw [layout, List.drop_left' (bigEndian_length _ _), List.append_assoc,
      List.take_left' (by simp)]
    decide
  have offsetZeros : ((data.drop 64).take 31).any (· ≠ 0) = false := by
    rw [layout, show 64 = 32 + 32 from rfl, ← List.drop_drop,
      List.drop_left' (bigEndian_length _ _), List.drop_left' (by simp [whole]),
      bigEndian_small (by decide), List.append_assoc, List.take_left' (by simp)]
    decide
  have credible : targetLooksLikeAbiOffset target data.length = false := by
    simp only [targetLooksLikeAbiOffset, Bool.or_eq_false_iff, Bool.and_eq_false_iff,
      decide_eq_false_iff_not]
    omega
  have parsed : parseGovernance abi data =
      some ⟨command, commandName, target, callData, nativeValue, eta⟩ := by
    simp only [parseGovernance, Nat.not_lt.mpr long, zeros, command_of_start starts, known,
      targetZeros, offsetZeros, offset, decoded, proposalValues, credible, Nat.not_lt.mpr sane,
      Bool.false_eq_true, ne_eq, not_true_eq_false, or_self, if_false, Option.bind_some]
  rw [shapeOf_of_start standard starts, otherShape]
  by_cases hub : isHubFrame data = true
  · simp [hub, noMessage hub, parsed]
  · simp [hub, parsed]

end Families

/-- The messages of the token service, one for each of its six types. -/
inductive TokenMessage where
  | interchainTransfer (tokenId : BitVec 256) (sourceAddress destinationAddress : Bytes)
      (amount : BitVec 256) (data : Bytes)
  | deployInterchainToken (tokenId : BitVec 256) (name symbol : String) (decimals : BitVec 8)
      (minter : Bytes)
  | sendToHub (destinationChain : String) (payload : Bytes)
  | receiveFromHub (sourceChain : String) (payload : Bytes)
  | linkToken (tokenId : BitVec 256) (tokenManagerType : BitVec 8)
      (sourceTokenAddress destinationTokenAddress linkParams : Bytes)
  | registerTokenMetadata (tokenAddress : Bytes) (decimals : BitVec 8)

namespace TokenMessage

/-- The name by which a message is reported. -/
def name : TokenMessage → String
  | .interchainTransfer .. => "INTERCHAIN_TRANSFER"
  | .deployInterchainToken .. => "DEPLOY_INTERCHAIN_TOKEN"
  | .sendToHub .. => "SEND_TO_HUB"
  | .receiveFromHub .. => "RECEIVE_FROM_HUB"
  | .linkToken .. => "LINK_TOKEN"
  | .registerTokenMetadata .. => "REGISTER_TOKEN_METADATA"

def number (label : String) (value : BitVec 256) : Field := ⟨label, "uint256", .uint value 256⟩

def small (label : String) (value : BitVec 8) : Field :=
  ⟨label, "uint8", .uint (value.setWidth 256) 8⟩

def token (tokenId : BitVec 256) : Field :=
  ⟨"tokenId", "bytes32", .fixedBytes (bigEndian 32 tokenId.toNat)⟩

def content (label : String) (value : Bytes) : Field := ⟨label, "bytes", .bytes value⟩

def string (label : String) (value : String) : Field := ⟨label, "string", .string value⟩

/-- The fields of a message as they are labelled and typed. -/
def fields : TokenMessage → List Field
  | .interchainTransfer tokenId sourceAddress destinationAddress amount data =>
    [number "messageType" 0, token tokenId, content "sourceAddress" sourceAddress,
      content "destinationAddress" destinationAddress, number "amount" amount, content "data" data]
  | .deployInterchainToken tokenId name symbol decimals minter =>
    [number "messageType" 1, token tokenId, string "name" name, string "symbol" symbol,
      small "decimals" decimals, content "minter" minter]
  | .sendToHub destinationChain payload =>
    [number "messageType" 3, string "destinationChain" destinationChain, content "payload" payload]
  | .receiveFromHub sourceChain payload =>
    [number "messageType" 4, string "sourceChain" sourceChain, content "payload" payload]
  | .linkToken tokenId tokenManagerType sourceTokenAddress destinationTokenAddress linkParams =>
    [number "messageType" 5, token tokenId, small "tokenManagerType" tokenManagerType,
      content "sourceTokenAddress" sourceTokenAddress,
      content "destinationTokenAddress" destinationTokenAddress, content "linkParams" linkParams]
  | .registerTokenMetadata tokenAddress decimals =>
    [number "messageType" 6, content "tokenAddress" tokenAddress, small "decimals" decimals]

/-- The canonical encoding of a message. -/
def encoding (message : TokenMessage) : Bytes := encodeParams (message.fields.map Field.value)

end TokenMessage

/-- A field as it is returned: byte strings of more than 64 bytes are cut. -/
def shownField (debug : SolValue → String) (field : Field) : DecodedArgument (Json Empty) :=
  ⟨field.name, field.ty, solValueToJson debug field.value⟩

section Shown

variable {abi : Abi (Json Empty)} {debug : SolValue → String}

theorem decodePayload_fields (standard : FollowsStandard abi)
    (shows : abi.solValueToJson = solValueToJson debug) {msgType : Nat} {name : String}
    {types : List SolType} {labels : List String} {fields : List Field}
    (known : itsMessageDef msgType = some (name, types, labels))
    (typed : List.Forall₂ HasType types (fields.map Field.value))
    (first : (fields.map Field.value).head? = some (.uint (BitVec.ofNat 256 msgType) 256))
    (labelled : (ItsMessage.mk name types labels (fields.map Field.value)).fields = fields)
    (fits : (encodeParams (fields.map Field.value)).length < 256 ^ 32) :
    decodePayload abi (encodeParams (fields.map Field.value)) =
      .ok (.itsMessage name (fields.map (shownField debug))) := by
  have returned : Field.argument abi = shownField debug := by
    funext field
    rw [Field.argument, shownField, shows]
  rw [decodePayload_eq, shapeOf_its standard known typed first fits, ← returned]
  simp only [Except.bind, payloadOf, labelled]

theorem decodePayload_message (standard : FollowsStandard abi)
    (shows : abi.solValueToJson = solValueToJson debug) (message : TokenMessage)
    (fits : message.encoding.length < 256 ^ 32) :
    decodePayload abi message.encoding =
      .ok (.itsMessage message.name (message.fields.map (shownField debug))) := by
  have number (value : BitVec 256) : HasType (.uint 256) (.uint value 256) := ⟨rfl, value.isLt⟩
  have small (value : BitVec 8) : HasType (.uint 8) (.uint (value.setWidth 256) 8) := by
    refine ⟨rfl, ?_⟩
    rw [BitVec.toNat_setWidth]
    exact (Nat.mod_le _ _).trans_lt value.isLt
  have token (value : BitVec 256) :
      HasType (.fixedBytes 32) (.fixedBytes (bigEndian 32 value.toNat)) :=
    ⟨bigEndian_length _ _, le_refl _⟩
  have content (value : Bytes) : HasType .bytes (.bytes value) := trivial
  have string (value : String) : HasType .string (.string value) := trivial
  cases message
  all_goals
    refine decodePayload_fields standard shows rfl ?_ rfl rfl fits
    simp only [TokenMessage.fields, List.map_cons, List.map_nil, List.forall₂_cons,
      List.forall₂_nil_left_iff, TokenMessage.number, TokenMessage.small, TokenMessage.token,
      TokenMessage.content, TokenMessage.string, number, small, token, content, string, and_self]

/-- Canonical payloads are classified as what they are. -/
theorem canonical_payloads_are_classified
    (standard : FollowsStandard abi)
    (shows : abi.solValueToJson = solValueToJson debug) :
    (∀ message : TokenMessage, message.encoding.length < 2 ^ 64 →
      decodePayload abi message.encoding =
        .ok (.itsMessage message.name (message.fields.map (shownField debug)))) ∧
    (∀ command commandName target callData nativeValue eta call,
      governanceCommandName command = some commandName → target.length = 20 →
      0x10000 ≤ fromBigEndian target →
      (encodeParams (proposalValues command target callData nativeValue eta)).length ≤
        fromBigEndian target →
      decodeCall abi callData = .ok call → eta.toNat ≤ maxSaneEtaSecs →
      (encodeParams (proposalValues command target callData nativeValue eta)).length < 2 ^ 64 →
      decodePayload abi (encodeParams (proposalValues command target callData nativeValue eta)) =
        .ok (.governanceProposal command commandName ("0x" ++ hexEncode target)
          (decimalText nativeValue.toNat) eta.toNat call)) := by
  have wide : 2 ^ 64 < 256 ^ 32 := by decide
  constructor
  · intro message fits
    exact decodePayload_message standard shows message (fits.trans wide)
  · intro command commandName target callData nativeValue eta call known whole large outside
      decodes sane fits
    have exactEta : min eta.toNat (2 ^ 64 - 1) = eta.toNat := by
      simp only [maxSaneEtaSecs] at sane
      omega
    rw [decodePayload_eq,
      shapeOf_proposal standard known whole large outside sane (fits.trans wide)]
    simp only [Except.bind, payloadOf, decodes, bind, exactEta]

end Shown

/-- A library that follows the standard, with an empty database. -/
def standardAbi : Abi (Json Empty) where
  functionDb := .ok fun _ => none
  decodeInput := fun _ _ => .error "no function"
  decodeParams := decodeStandard
  solValueToJson := solValueToJson fun _ => ""

theorem standardAbi_follows : FollowsStandard standardAbi where
  inverts := fun _ _ typed fits => decodeStandard_encodeParams typed fits
  refuses := by
    intro types data index dynamic far
    have none : read data 0 (types.map SolType.dynamic) = none :=
      read_eq_none dynamic (by rwa [Nat.zero_add])
    simp [standardAbi, decodeStandard, none]
  selectors := ⟨fun _ => none, rfl, rfl⟩

/-- The cancelled approval of an operator, whose command is the number of a hub frame, and
a hub frame. -/
theorem operator_approval_is_a_proposal : decodePayload standardAbi
        (encodeParams (proposalValues 3 (List.replicate 20 1) [] 0 1780421385)) =
      .ok (.governanceProposal 3 "CancelOperatorApproval"
        ("0x" ++ hexEncode (List.replicate 20 1)) (decimalText 0) 1780421385 none) ∧
    decodePayload standardAbi (TokenMessage.sendToHub "flow" [1, 2]).encoding =
      .ok (.itsMessage "SEND_TO_HUB" [⟨"messageType", "uint256", .text "3"⟩,
        ⟨"destinationChain", "string", .text "flow"⟩, ⟨"payload", "bytes", .text "0x0102"⟩]) := by
  have length : (encodeParams (proposalValues 3 (List.replicate 20 1) [] 0 1780421385)).length =
      192 := by decide +kernel
  have target : fromBigEndian (List.replicate 20 1) = 0x101010101010101010101010101010101010101 := by
    decide +kernel
  have frame : (TokenMessage.sendToHub "flow" [1, 2]).encoding.length = 224 := by decide +kernel
  have classified := canonical_payloads_are_classified standardAbi_follows rfl
  exact ⟨classified.2 3 "CancelOperatorApproval" (List.replicate 20 1) [] 0 1780421385 none rfl rfl
    (by rw [target]; decide) (by rw [length, target]; decide) rfl (by decide)
    (by rw [length]; decide), classified.1 (.sendToHub "flow" [1, 2]) (by rw [frame]; decide)⟩

/-- Of a payload of 96 bytes only the first 32 are shown, so that two messages are shown
as one. -/
theorem long_payload_is_cut :
    let payload := List.replicate 96 1
    let other := List.replicate 32 1 ++ List.replicate 64 2
    let shown := .ok (.itsMessage "SEND_TO_HUB" [⟨"messageType", "uint256", .text "3"⟩,
      ⟨"destinationChain", "string", .text "flow"⟩,
      ⟨"payload", "bytes", .text ("0x" ++ hexEncode (List.replicate 32 1) ++ "... (96 bytes)")⟩])
    payload ≠ other ∧
      decodePayload standardAbi (TokenMessage.sendToHub "flow" payload).encoding = shown ∧
      decodePayload standardAbi (TokenMessage.sendToHub "flow" other).encoding = shown := by
  intro payload other shown
  have decoded (cut : Bytes) (length : (TokenMessage.sendToHub "flow" cut).encoding.length = 288)
      (long : cut.length = 96) (start : cut.take 32 = List.replicate 32 1) :
      decodePayload standardAbi (TokenMessage.sendToHub "flow" cut).encoding = shown := by
    have text : solValueToJson (fun _ => "") (.bytes cut) =
        .text ("0x" ++ hexEncode (List.replicate 32 1) ++ "... (" ++ "96" ++ " bytes)") := by
      rw [solValueToJson, if_neg (by omega), start, long]
      rfl
    rw [decodePayload_message standardAbi_follows rfl _ (by rw [length]; decide)]
    simp only [TokenMessage.fields, List.map_cons, shownField, TokenMessage.content, text]
    rfl
  exact ⟨by decide, decoded payload (by decide +kernel) rfl rfl,
    decoded other (by decide +kernel) rfl rfl⟩

end Axe.Decode

import Mathlib.Tactic.Ring

namespace Axe

/-!
# Prefix codes over bytes

A codec writes a value as bytes and reads it back from the front of any longer
input.  Such codes compose: concatenating the encodings of several fields gives
a code for the tuple of the fields, so two records with the same bytes are the
same record.
-/

abbrev Bytes := List UInt8

instance Bytes.lawfulBEq : LawfulBEq Bytes := inferInstanceAs (LawfulBEq (List UInt8))

/-- An encoding that can be read back from the front of any input. -/
structure Codec (Value : Type) where
  encode : Value → Bytes
  decode : Bytes → Option (Value × Bytes)
  decode_encode : ∀ value rest, decode (encode value ++ rest) = some (value, rest)

namespace Codec

variable {Value Other : Type}

theorem encode_append_inj (codec : Codec Value) {first second : Value}
    {firstRest secondRest : Bytes}
    (same : codec.encode first ++ firstRest = codec.encode second ++ secondRest) :
    first = second ∧ firstRest = secondRest := by
  have readFirst := codec.decode_encode first firstRest
  rw [same, codec.decode_encode second secondRest] at readFirst
  simpa [eq_comm] using readFirst

theorem encode_injective (codec : Codec Value) : Function.Injective codec.encode := by
  intro first second same
  have appended : codec.encode first ++ [] = codec.encode second ++ [] := by rw [same]
  exact (codec.encode_append_inj appended).1

def decodeAll (codec : Codec Value) (input : Bytes) : Option Value :=
  match codec.decode input with
  | some (value, []) => some value
  | _ => none

@[simp] theorem decodeAll_encode (codec : Codec Value) (value : Value) :
    codec.decodeAll (codec.encode value) = some value := by
  have read := codec.decode_encode value []
  rw [List.append_nil] at read
  simp [decodeAll, read]

/-- Two values one after the other. -/
def pair (left : Codec Value) (right : Codec Other) : Codec (Value × Other) where
  encode value := left.encode value.1 ++ right.encode value.2
  decode input :=
    match left.decode input with
    | none => none
    | some (first, middle) =>
      match right.decode middle with
      | none => none
      | some (second, rest) => some ((first, second), rest)
  decode_encode := by
    intro value rest
    rw [List.append_assoc]
    simp [left.decode_encode, right.decode_encode]

def map (codec : Codec Value) (wrap : Value → Other) (unwrap : Other → Value)
    (wrap_unwrap : ∀ value, wrap (unwrap value) = value) :
    Codec Other where
  encode value := codec.encode (unwrap value)
  decode input :=
    match codec.decode input with
    | none => none
    | some (value, rest) => some (wrap value, rest)
  decode_encode := by
    intro value rest
    simp [codec.decode_encode, wrap_unwrap]

def option (codec : Codec Value) : Codec (Option Value) where
  encode
    | none => [0]
    | some value => 1 :: codec.encode value
  decode
    | [] => none
    | flag :: input =>
      if flag = 0 then
        some (none, input)
      else
        match codec.decode input with
        | none => none
        | some (value, rest) => some (some value, rest)
  decode_encode := by
    intro value rest
    cases value with
    | none => rfl
    | some value => simp [codec.decode_encode]

def decodeList (codec : Codec Value) : Nat → Bytes → Option (List Value × Bytes)
  | 0, _ => none
  | _ + 1, [] => none
  | fuel + 1, flag :: input =>
    if flag = 0 then
      some ([], input)
    else
      match codec.decode input with
      | none => none
      | some (value, middle) =>
        match decodeList codec fuel middle with
        | none => none
        | some (values, rest) => some (value :: values, rest)

def encodeList (codec : Codec Value) : List Value → Bytes
  | [] => [0]
  | value :: values => 1 :: (codec.encode value ++ encodeList codec values)

theorem decodeList_encodeList (codec : Codec Value) (values : List Value) (rest : Bytes)
    {fuel : Nat} (enough : values.length < fuel) :
    decodeList codec fuel (encodeList codec values ++ rest) = some (values, rest) := by
  induction values generalizing fuel with
  | nil =>
    cases fuel with
    | zero => exact absurd enough (Nat.not_lt_zero _)
    | succ fuel => rfl
  | cons value values ih =>
    cases fuel with
    | zero => exact absurd enough (Nat.not_lt_zero _)
    | succ fuel =>
      have less : values.length < fuel := by simpa using enough
      simp [encodeList, decodeList, codec.decode_encode, ih less]

theorem length_lt_encodeList (codec : Codec Value) (values : List Value) :
    values.length < (encodeList codec values).length := by
  induction values with
  | nil => simp [encodeList]
  | cons value values ih =>
    simp only [encodeList, List.length_cons, List.length_append]
    omega

/-- The values, each with a mark in front, and an end mark. -/
def list (codec : Codec Value) : Codec (List Value) where
  encode := encodeList codec
  decode input := decodeList codec input.length input
  decode_encode := by
    intro values rest
    refine decodeList_encodeList codec values rest ?_
    have bound := length_lt_encodeList codec values
    simp only [List.length_append]
    omega

def byte : Codec UInt8 where
  encode value := [value]
  decode
    | [] => none
    | value :: rest => some (value, rest)
  decode_encode := by
    intro value rest
    rfl

/-- A number in a fixed count of bytes. -/
def bigEndian : Nat → Nat → Bytes
  | 0, _ => []
  | count + 1, value => bigEndian count (value / 256) ++ [UInt8.ofNat value]

/-- The number that bytes stand for. -/
def fromBigEndian (input : Bytes) : Nat :=
  input.foldl (fun value digit => value * 256 + digit.toNat) 0

@[simp] theorem bigEndian_length (count value : Nat) : (bigEndian count value).length = count := by
  induction count generalizing value with
  | zero => rfl
  | succ count ih => simp [bigEndian, ih]

theorem fromBigEndian_bigEndian {count value : Nat} (fits : value < 256 ^ count) :
    fromBigEndian (bigEndian count value) = value := by
  induction count generalizing value with
  | zero =>
    have zero : value = 0 := by simpa using fits
    simp [bigEndian, fromBigEndian, zero]
  | succ count ih =>
    have less : value / 256 < 256 ^ count := by
      rw [Nat.pow_succ] at fits
      exact Nat.div_lt_of_lt_mul (by omega)
    have high := ih less
    unfold fromBigEndian at high ⊢
    simp only [bigEndian, List.foldl_append, List.foldl_cons,
      List.foldl_nil, high, UInt8.toNat_ofNat']
    omega

/-- A machine word of a fixed number of bytes, most significant byte first. -/
def word (count width : Nat) (fits : 2 ^ width ≤ 256 ^ count) : Codec (BitVec width) where
  encode value := bigEndian count value.toNat
  decode input :=
    if count ≤ input.length then
      some
        (BitVec.ofNat width (fromBigEndian (input.take count)), input.drop count)
    else
      none
  decode_encode := by
    intro value rest
    have bound : value.toNat < 256 ^ count := Nat.lt_of_lt_of_le value.isLt fits
    have front : (bigEndian count value.toNat ++ rest).take count = bigEndian count value.toNat :=
      List.take_left' (bigEndian_length count value.toNat)
    have back : (bigEndian count value.toNat ++ rest).drop count = rest :=
      List.drop_left' (bigEndian_length count value.toNat)
    rw [if_pos (by simp), front, back, fromBigEndian_bigEndian bound]
    simp

def wideChar : Codec Char :=
  (word 4 32 (by decide)).map
    (fun point => Char.ofNat point.toNat)
    (fun value => BitVec.ofNat 32 value.toNat)
    (by
      intro value
      have bound : value.toNat < 2 ^ 32 := value.val.toNat_lt
      rw [BitVec.toNat_ofNat, Nat.mod_eq_of_lt bound, Char.ofNat_toNat])

def char : Codec Char where
  encode value :=
    if value.toNat < 128 then [UInt8.ofNat value.toNat] else 255 :: wideChar.encode value
  decode
    | [] => none
    | first :: input =>
      if first.toNat < 128 then some (Char.ofNat first.toNat, input) else wideChar.decode input
  decode_encode := by
    intro value rest
    by_cases narrow : value.toNat < 128
    · have small : value.toNat % 256 = value.toNat := Nat.mod_eq_of_lt (by omega)
      simp [narrow, small]
    · simp [narrow, wideChar.decode_encode]

def text : Codec String := (list char).map String.ofList String.toList (by simp)

def bytes : Codec Bytes := list byte

def number : Codec Nat :=
  bytes.map fromBigEndian (fun value => bigEndian (value.log2 / 8 + 1) value)
    (by
      intro value
      refine fromBigEndian_bigEndian (Nat.lt_of_lt_of_le Nat.lt_log2_self ?_)
      calc 2 ^ (value.log2 + 1)
          ≤ 2 ^ (8 * (value.log2 / 8 + 1)) := Nat.pow_le_pow_right (by decide) (by omega)
        _ = 256 ^ (value.log2 / 8 + 1) := by rw [Nat.pow_mul])

def bool : Codec Bool :=
  byte.map (fun flag => flag != 0) (fun value => if value then 1 else 0)
    (by decide)

end Codec

end Axe

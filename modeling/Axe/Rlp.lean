import Mathlib.Data.Nat.Digits.Lemmas
import Axe.PrefixCodec

namespace Axe.Rlp

/-!
# Recursive length prefixes

A byte string or a list of items is written behind a header that tells its kind
and its length.  A single byte below 128 is its own encoding.  Numbers are
written as the shortest byte string that has their value, most significant byte
first; zero is the empty string.
-/

/-- A string or a list. -/
inductive Item where
  | string (bytes : Bytes)
  | list (items : List Item)

def minimal (value : Nat) : Bytes := ((Nat.digits 256 value).map UInt8.ofNat).reverse

def header (short long length : Nat) : Bytes :=
  if length < 56 then
    [UInt8.ofNat (short + length)]
  else
    UInt8.ofNat (long + (minimal length).length) :: minimal length

def encodeString (bytes : Bytes) : Bytes :=
  match bytes with
  | [single] => if single < 0x80 then [single] else header 0x80 0xb7 1 ++ [single]
  | bytes => header 0x80 0xb7 bytes.length ++ bytes

/-- The encoding of a list, given those of its items one after the other. -/
def encodePayload (payload : Bytes) : Bytes := header 0xc0 0xf7 payload.length ++ payload

mutual

/-- The encoding of an item. -/
def encode : Item → Bytes
  | .string bytes => encodeString bytes
  | .list items => encodePayload (encodeAll items)

def encodeAll : List Item → Bytes
  | [] => []
  | item :: rest => encode item ++ encodeAll rest

end

/-!
## Numbers
-/

@[simp] theorem minimal_zero : minimal 0 = [] := by simp [minimal]

variable {value : Nat}

theorem minimal_of_pos (positive : 0 < value) :
    minimal value = minimal (value / 256) ++ [UInt8.ofNat value] := by
  have digits : Nat.digits 256 value = value % 256 :: Nat.digits 256 (value / 256) :=
    Nat.digits_def' (by decide) positive
  have lastByte : UInt8.ofNat (value % 256) = UInt8.ofNat value := by
    apply UInt8.toNat_inj.mp
    simp
  rw [minimal, digits]
  simp [minimal, lastByte]

theorem fromBigEndian_minimal (value : Nat) : Codec.fromBigEndian (minimal value) = value := by
  induction value using Nat.strongRecOn with
  | ind value ih =>
    by_cases positive : 0 < value
    · have smaller : value / 256 < value := Nat.div_lt_self positive (by decide)
      have high := ih (value / 256) smaller
      rw [minimal_of_pos positive]
      unfold Codec.fromBigEndian at high ⊢
      simp only [List.foldl_append, List.foldl_cons, List.foldl_nil, high, UInt8.toNat_ofNat']
      omega
    · have zero : value = 0 := by omega
      simp [zero, Codec.fromBigEndian]

theorem minimal_injective : Function.Injective minimal := by
  intro first second same
  rw [← fromBigEndian_minimal first, same, fromBigEndian_minimal]

theorem head?_minimal (value : Nat) : (minimal value).head? ≠ some 0 := by
  induction value using Nat.strongRecOn with
  | ind value ih =>
    by_cases positive : 0 < value
    · rw [minimal_of_pos positive]
      by_cases small : value / 256 = 0
      · have below : value < 256 := by omega
        intro zero
        have same : UInt8.ofNat value = 0 := by simpa [small] using zero
        have remainder := congrArg UInt8.toNat same
        simp only [UInt8.toNat_ofNat', UInt8.toNat_zero] at remainder
        omega
      · have smaller : value / 256 < value := Nat.div_lt_self positive (by decide)
        have high : minimal (value / 256) ≠ [] := by
          intro isEmpty
          apply small
          rw [← fromBigEndian_minimal (value / 256), isEmpty]
          rfl
        rw [List.head?_append_of_ne_nil _ high]
        exact ih (value / 256) smaller
    · have zero : value = 0 := by omega
      simp [zero]

theorem length_minimal_le {count : Nat} (fits : value < 256 ^ count) :
    (minimal value).length ≤ count := by
  simpa [minimal] using (Nat.digits_length_le_iff (by decide) value).mpr fits

theorem dropWhile_bigEndian {count : Nat} (fits : value < 256 ^ count) :
    (Codec.bigEndian count value).dropWhile (fun byte => byte == 0) = minimal value := by
  induction count generalizing value with
  | zero =>
    have zero : value = 0 := by simpa using fits
    simp [zero, Codec.bigEndian]
  | succ count ih =>
    have less : value / 256 < 256 ^ count := by
      rw [Nat.pow_succ] at fits
      exact Nat.div_lt_of_lt_mul (by omega)
    rw [Codec.bigEndian, List.dropWhile_append, ih less]
    by_cases positive : 0 < value
    · rw [minimal_of_pos positive]
      by_cases small : value / 256 = 0
      · have nonzero : UInt8.ofNat value ≠ 0 := by
          intro same
          have remainder := congrArg UInt8.toNat same
          simp only [UInt8.toNat_ofNat', UInt8.toNat_zero] at remainder
          omega
        simp [small, nonzero]
      · have high : minimal (value / 256) ≠ [] := by
          intro isEmpty
          apply small
          rw [← fromBigEndian_minimal (value / 256), isEmpty]
          rfl
        simp [high]
    · have zero : value = 0 := by omega
      simp [zero]

/-!
## Short strings and lists
-/

theorem header_short
    {short long length : Nat}
    (isShort : length < 56) :
    header short long length = [UInt8.ofNat (short + length)] :=
  if_pos isShort

theorem encodePayload_short {payload : Bytes} (isShort : payload.length < 56) :
    encodePayload payload = UInt8.ofNat (0xc0 + payload.length) :: payload := by
  rw [encodePayload, header_short isShort]
  rfl

theorem encodeString_cases {bytes : Bytes} (isShort : bytes.length < 56) :
    (∃ single, bytes = [single] ∧ single < 0x80 ∧ encodeString bytes = [single]) ∨
      encodeString bytes = UInt8.ofNat (0x80 + bytes.length) :: bytes := by
  unfold encodeString
  split
  · rename_i single
    by_cases small : single < 0x80
    · left
      exact ⟨single, rfl, small, if_pos small⟩
    · right
      rw [if_neg small]
      rfl
  · right
    rw [header_short isShort]
    rfl

theorem encodeString_inj {first second : Bytes} (firstShort : first.length < 56)
    (secondShort : second.length < 56) (same : encodeString first = encodeString second) :
    first = second := by
  have lengthByte : ∀ {bytes : Bytes}, bytes.length < 56 →
        ¬ UInt8.ofNat (0x80 + bytes.length) < 0x80 := by
    intro bytes isShort
    rw [UInt8.lt_iff_toNat_lt, UInt8.toNat_ofNat']
    have large : (0x80 : UInt8).toNat = 128 := rfl
    omega
  rcases encodeString_cases firstShort with ⟨one, isOne, oneSmall, firstIs⟩ | firstIs
  · rcases encodeString_cases secondShort with ⟨two, isTwo, _, secondIs⟩ | secondIs
    · rw [firstIs, secondIs] at same
      rw [isOne, isTwo, same]
    · rw [firstIs, secondIs] at same
      rw [(List.cons.inj same).1] at oneSmall
      exact absurd oneSmall (lengthByte secondShort)
  · rcases encodeString_cases secondShort with ⟨two, isTwo, twoSmall, secondIs⟩ | secondIs
    · rw [firstIs, secondIs] at same
      rw [← (List.cons.inj same).1] at twoSmall
      exact absurd twoSmall (lengthByte firstShort)
    · rw [firstIs, secondIs] at same
      exact (List.cons.inj same).2

end Axe.Rlp

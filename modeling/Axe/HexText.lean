import Axe.TextSearch

namespace Axe

/-!
# Hexadecimal texts

Bytes travel as hexadecimal texts, two digits a byte and in either case.
-/

def hexDigitValue (char : Char) : Option Nat :=
  if '0' ≤ char ∧ char ≤ '9' then some (char.toNat - '0'.toNat)
  else if 'a' ≤ char ∧ char ≤ 'f' then some (char.toNat - 'a'.toNat + 10)
  else if 'A' ≤ char ∧ char ≤ 'F' then some (char.toNat - 'A'.toNat + 10)
  else none

/-- The bytes that pairs of hex digits stand for. -/
def hexBytes : List Char → Option (List UInt8)
  | [] => some []
  | [_] => none
  | high :: low :: rest =>
    match hexDigitValue high, hexDigitValue low, hexBytes rest with
    | some first, some second, some bytes => some (UInt8.ofNat (16 * first + second) :: bytes)
    | _, _, _ => none

def hexDecode (text : String) : Option (List UInt8) := hexBytes text.toList

def afterStart (start text : String) : Option String :=
  if start.toList.isPrefixOf text.toList then
    some (String.ofList (text.toList.drop start.toList.length))
  else
    none

/-- Decode hex with or without `0x` in front. -/
def hexDecodeLoose (text : String) : Option (List UInt8) :=
  hexDecode ((afterStart "0x" text).getD text)

theorem hexDigitValue_digitChar {value : Nat} (small : value < 16) :
    hexDigitValue (Nat.digitChar value) = some value := by
  have checked : ∀ value : Fin 16, hexDigitValue (Nat.digitChar value) = some value.val := by decide
  exact checked ⟨value, small⟩

@[simp] theorem hexDecode_hexEncode (bytes : List UInt8) :
    hexDecode (hexEncode bytes) = some bytes := by
  unfold hexDecode hexEncode
  rw [String.toList_ofList]
  induction bytes with
  | nil => rfl
  | cons byte rest ih =>
    have bound : byte.toNat < 256 := byte.toNat_lt
    have high : hexDigitValue (Nat.digitChar (byte.toNat / 16)) = some (byte.toNat / 16) :=
      hexDigitValue_digitChar (by omega)
    have low : hexDigitValue (Nat.digitChar (byte.toNat % 16)) = some (byte.toNat % 16) :=
      hexDigitValue_digitChar (by omega)
    have whole : 16 * (byte.toNat / 16) + byte.toNat % 16 = byte.toNat := by omega
    simp only [List.flatMap_cons, List.cons_append, List.nil_append, hexBytes, high, low,
      ih, whole, UInt8.ofNat_toNat]

@[simp] theorem afterStart_append (start rest : String) :
    afterStart start (start ++ rest) = some rest := by
  have starts : start.toList.isPrefixOf (start ++ rest).toList = true := by
    rw [String.toList_append, List.isPrefixOf_iff_prefix]
    exact List.prefix_append _ _
  rw [afterStart, if_pos starts, String.toList_append, List.drop_left, String.ofList_toList]

theorem afterStart_hexEncode (bytes : List UInt8) : afterStart "0x" (hexEncode bytes) = none := by
  unfold afterStart hexEncode
  rw [String.toList_ofList]
  cases bytes with
  | nil => rfl
  | cons byte rest =>
    have bound : byte.toNat % 16 < 16 := Nat.mod_lt _ (by decide)
    have checked : ∀ value : Fin 16, ('x' == Nat.digitChar value) = false := by decide
    have low : ('x' == Nat.digitChar (byte.toNat % 16)) = false := checked ⟨_, bound⟩
    rw [String.toList_ofList]
    simp only [List.flatMap_cons, List.cons_append, List.nil_append, List.isPrefixOf, low,
      Bool.false_and, Bool.and_false, Bool.false_eq_true, if_false]

@[simp] theorem hexDecodeLoose_hexEncode (bytes : List UInt8) :
    hexDecodeLoose (hexEncode bytes) = some bytes := by
  rw [hexDecodeLoose, afterStart_hexEncode, Option.getD_none, hexDecode_hexEncode]

end Axe

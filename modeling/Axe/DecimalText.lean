import Axe.TextSearch

namespace Axe

/-!
# Decimal texts

Amounts travel as decimal texts.  Reading one takes an optional plus sign and
at least one digit, and refuses a number that does not fit its type.
-/

/-- The digits of a number; a plus sign in front is skipped. -/
def unsignedDigits (text : String) : List Char :=
  match text.toList with
  | '+' :: digits => digits
  | digits => digits

/-- Read a number below a bound. -/
def parseUnsigned (bound : Nat) (text : String) : Option Nat :=
  if (unsignedDigits text).all Char.isDigit then parseBelow bound (unsignedDigits text) else none

/-- A number in decimal digits. -/
def decimalText (value : Nat) : String := String.ofList (Nat.toDigits 10 value)

theorem parseBelow_eq (bound : Nat) (digits : List Char) : parseBelow bound digits =
      if digits = [] ∨ bound ≤ Nat.ofDigitChars 10 digits 0 then none
      else some (Nat.ofDigitChars 10 digits 0) := by
  simp only [parseBelow, Nat.ofDigitChars, Nat.mul_comm 10]

theorem unsignedDigits_decimalText (value : Nat) :
    unsignedDigits (decimalText value) = Nat.toDigits 10 value := by
  have plain : ∀ digit ∈ Nat.toDigits 10 value, digit.isDigit = true :=
    fun digit member => Nat.isDigit_of_mem_toDigits (by decide) (by decide) member
  unfold unsignedDigits decimalText
  rw [String.toList_ofList]
  split
  · rename_i digits starts
    rw [starts] at plain
    have sign := plain '+' List.mem_cons_self
    exact absurd sign (by decide)
  · rfl

theorem parseUnsigned_decimalText {bound value : Nat} (fits : value < bound) :
    parseUnsigned bound (decimalText value) = some value := by
  have plain : (Nat.toDigits 10 value).all Char.isDigit = true :=
    List.all_eq_true.mpr fun digit member =>
      Nat.isDigit_of_mem_toDigits (by decide) (by decide) member
  have reads : Nat.ofDigitChars 10 (Nat.toDigits 10 value) 0 = value :=
    Nat.ofDigitChars_toDigits (by decide) (by decide)
  unfold parseUnsigned
  rw [unsignedDigits_decimalText, if_pos plain, parseBelow_eq, reads, if_neg]
  rintro (empty | large)
  · exact Nat.toDigits_ne_nil empty
  · exact absurd fits (Nat.not_lt.mpr large)

end Axe

import Mathlib.Data.List.DropRight
import Mathlib.Tactic.FieldSimp
import Axe.IntentQuotes

namespace Axe.Intents

open Hardened (U256)

/-!
# Amounts as people write them

A person writes an amount as a decimal text with at most one dot.  On chain it is a whole
number of base units, of which ten to the number of decimals make one.
-/

/-- The parts of a text between its dots. -/
def splitDots : List Char → List (List Char)
  | [] => [[]]
  | char :: rest =>
    if char = '.' then
      [] :: splitDots rest
    else
      (char :: (splitDots rest).head?.getD []) :: (splitDots rest).tail

/-- The digits before and after the dot, or an error. -/
def decimalParts (value : String) : Except String (List Char × List Char) :=
  let parts := splitDots value.toList
  let whole := parts[0]?.getD []
  let fraction := parts[1]?.getD []
  if parts[2]?.isSome ∨ (whole = [] ∧ fraction = []) ∨ ¬ whole.all Char.isDigit ∨
      ¬ fraction.all Char.isDigit then
    .error ("invalid decimal amount '" ++ value ++ "'")
  else
    .ok (whole, fraction)

/-- A text that was accepted, with the digits on both sides of its dot. -/
structure HumanAmount where
  text : String
  whole : List Char
  fraction : List Char
  accepted : decimalParts text = .ok (whole, fraction)

namespace HumanAmount

/-- Read an amount, or say that it is none. -/
def fromStr (value : String) : Except String HumanAmount :=
  match parsed : decimalParts value with
  | .ok (whole, fraction) => .ok ⟨value, whole, fraction, parsed⟩
  | .error error => .error error

/-- The digits of the amount in base units. -/
def scaled (amount : HumanAmount) (decimals : Nat) : List Char :=
  (if amount.whole = [] then ['0'] else amount.whole) ++ amount.fraction ++
    List.replicate (decimals - amount.fraction.length) '0'

/-- The amount in base units, if it has no more places and is not too large. -/
def toBaseUnits (amount : HumanAmount) (decimals : BitVec 8) : Except String U256 :=
  if decimals.toNat < amount.fraction.length then
    .error ("amount '" ++ amount.text ++ "' has more than " ++ decimalText decimals.toNat ++
      " decimal places")
  else
    match parseBelow (2 ^ 256) (amount.scaled decimals.toNat) with
    | some units => .ok (BitVec.ofNat 256 units)
    | none =>
      .error ("amount '" ++ amount.text ++
        "' is too large: the value is too large to fit the target type")

end HumanAmount

/-!
## The number that a text stands for
-/

/-- The number that some digits stand for. -/
abbrev digitsValue (digits : List Char) : Nat := Nat.ofDigitChars 10 digits 0

theorem ofDigitChars_zeros (digits : List Char) (zeros : ∀ digit ∈ digits, digit = '0')
    (start : Nat) :
    Nat.ofDigitChars 10 digits start = start * 10 ^ digits.length := by
  induction digits generalizing start with
  | nil => simp [Nat.ofDigitChars]
  | cons digit rest ih =>
    rw [Nat.ofDigitChars_cons, zeros digit List.mem_cons_self,
      ih fun digit member => zeros digit (List.mem_cons_of_mem _ member)]
    rw [Nat.sub_self, Nat.add_zero, List.length_cons, Nat.pow_succ]
    ring

theorem digitsValue_append_zeros (digits : List Char) (count : Nat) :
    digitsValue (digits ++ List.replicate count '0') = digitsValue digits * 10 ^ count := by
  unfold digitsValue
  rw [Nat.ofDigitChars_append, ofDigitChars_zeros _ (fun _ => List.eq_of_mem_replicate),
    List.length_replicate]

theorem digitsValue_zeros_append (digits : List Char) (count : Nat) :
    digitsValue (List.replicate count '0' ++ digits) = digitsValue digits := by
  unfold digitsValue
  rw [Nat.ofDigitChars_append, ofDigitChars_zeros _ (fun _ => List.eq_of_mem_replicate),
    Nat.zero_mul]

/-- The parts of a text, joined by dots, are the text. -/
theorem exists_splitDots (text : List Char) :
    ∃ first rest, splitDots text = first :: rest ∧ ['.'].intercalate (first :: rest) = text := by
  induction text with
  | nil => exact ⟨[], [], rfl, rfl⟩
  | cons char text ih =>
    obtain ⟨first, rest, split, joined⟩ := ih
    rw [splitDots]
    by_cases dot : char = '.'
    · refine ⟨[], first :: rest, by rw [if_pos dot, split], ?_⟩
      rw [dot, ← joined]
      simp [List.intercalate]
    · refine ⟨char :: first, rest, by rw [if_neg dot, split]; rfl, ?_⟩
      rw [← joined]
      cases rest <;> simp [List.intercalate]

namespace HumanAmount

variable (amount : HumanAmount)

/-- The text is a whole part, or a whole part, a dot and a fraction, and these are digits. -/
structure Spelled (text : String) : Prop where
  parts : text.toList = amount.whole ∧ amount.fraction = [] ∨
    text.toList = amount.whole ++ '.' :: amount.fraction
  digits : (amount.whole ++ amount.fraction).all Char.isDigit = true

theorem spelled : amount.Spelled amount.text := by
  have accepted := amount.accepted
  obtain ⟨first, rest, split, joined⟩ := exists_splitDots amount.text.toList
  simp only [decimalParts, split] at accepted
  split at accepted
  · cases accepted
  · rename_i valid
    push Not at valid
    obtain ⟨single, _, wholeDigits, fractionDigits⟩ := valid
    obtain ⟨isWhole, isFraction⟩ := Prod.mk.inj (Except.ok.inj accepted)
    rw [isWhole] at wholeDigits
    rw [isFraction] at fractionDigits
    refine ⟨?_, by rw [List.all_append, wholeDigits, fractionDigits, Bool.and_true]⟩
    rw [← isWhole, ← isFraction, ← joined]
    rcases rest with _ | ⟨second, _ | _⟩
    · exact .inl ⟨by simp [List.intercalate], rfl⟩
    · exact .inr (by simp [List.intercalate])
    · simp at single

variable {amount}

theorem text_of_fromStr {text : String} (isRead : fromStr text = .ok amount) :
    amount.text = text := by
  unfold fromStr at isRead
  split at isRead
  · cases isRead
    rfl
  · cases isRead

variable (amount)

/-- The number that the digits stand for. -/
def value : ℚ := digitsValue (amount.whole ++ amount.fraction) / 10 ^ amount.fraction.length

theorem scaled_ne_nil (decimals : Nat) : amount.scaled decimals ≠ [] := by
  unfold scaled
  split
  · simp
  · rename_i nonempty
    simp [nonempty]

variable {amount}

theorem digitsValue_scaled {decimals : Nat} (fits : amount.fraction.length ≤ decimals) :
    (digitsValue (amount.scaled decimals) : ℚ) = amount.value * 10 ^ decimals := by
  have digits : digitsValue (amount.scaled decimals) =
      digitsValue (amount.whole ++ amount.fraction) *
        10 ^ (decimals - amount.fraction.length) := by
    unfold scaled
    rw [digitsValue_append_zeros]
    split
    · rename_i empty
      rw [empty]
      exact congrArg (· * _) (digitsValue_zeros_append amount.fraction 1)
    · rfl
  have powers : (10 : ℚ) ^ decimals =
      10 ^ amount.fraction.length * 10 ^ (decimals - amount.fraction.length) := by
    rw [← pow_add, Nat.add_sub_cancel' fits]
  rw [digits, powers, value]
  push_cast
  field_simp

theorem toBaseUnits_eq {decimals : BitVec 8} (fits : amount.fraction.length ≤ decimals.toNat) :
    amount.toBaseUnits decimals =
      if digitsValue (amount.scaled decimals.toNat) < 2 ^ 256 then
        .ok (BitVec.ofNat 256 (digitsValue (amount.scaled decimals.toNat)))
      else
        .error ("amount '" ++ amount.text ++
          "' is too large: the value is too large to fit the target type") := by
  rw [toBaseUnits, if_neg (Nat.not_lt.mpr fits), parseBelow_eq]
  by_cases small : digitsValue (amount.scaled decimals.toNat) < 2 ^ 256
  · rw [if_pos small, if_neg]
    rintro (empty | large)
    · exact amount.scaled_ne_nil _ empty
    · exact absurd small (Nat.not_lt.mpr large)
  · rw [if_neg small, if_pos (.inr (Nat.not_lt.mp small))]

theorem toBaseUnits_spec (amount : HumanAmount) (decimals : BitVec 8) :
    (∀ units, amount.toBaseUnits decimals = .ok units →
      (units.toNat : ℚ) = amount.value * 10 ^ decimals.toNat) ∧
    ((∃ error, amount.toBaseUnits decimals = .error error) ↔
      decimals.toNat < amount.fraction.length ∨ 2 ^ 256 ≤ amount.value * 10 ^ decimals.toNat) := by
  by_cases fits : amount.fraction.length ≤ decimals.toNat
  · rw [toBaseUnits_eq fits, ← digitsValue_scaled fits]
    have bound : (2 ^ 256 : ℚ) ≤ digitsValue (amount.scaled decimals.toNat) ↔
        2 ^ 256 ≤ digitsValue (amount.scaled decimals.toNat) := by
      exact_mod_cast Iff.rfl
    rw [bound]
    split
    · rename_i small
      constructor
      · rintro units ⟨⟩
        rw [BitVec.toNat_ofNat, Nat.mod_eq_of_lt small]
      · constructor
        · rintro ⟨error, ⟨⟩⟩
        · rintro (more | large)
          · exact absurd more (Nat.not_lt.mpr fits)
          · exact absurd small (Nat.not_lt.mpr large)
    · rename_i large
      constructor
      · rintro units ⟨⟩
      · exact ⟨fun _ => .inr (Nat.not_lt.mp large), fun _ => ⟨_, rfl⟩⟩
  · have more := Nat.not_le.mp fits
    rw [toBaseUnits, if_pos more]
    constructor
    · rintro units ⟨⟩
    · exact ⟨fun _ => .inl more, fun _ => ⟨_, rfl⟩⟩

end HumanAmount

/-!
## What is formatted is read back
-/

theorem splitDots_plain
    {text : List Char}
    (plain : ∀ char ∈ text, char ≠ '.') :
    splitDots text = [text] := by
  induction text with
  | nil => rfl
  | cons char rest ih =>
    rw [splitDots, if_neg (plain char List.mem_cons_self),
      ih fun char member => plain char (List.mem_cons_of_mem _ member)]
    rfl

theorem splitDots_append {text rest : List Char} (plain : ∀ char ∈ text, char ≠ '.') :
    splitDots (text ++ '.' :: rest) = text :: splitDots rest := by
  induction text with
  | nil => rfl
  | cons char text ih =>
    rw [List.cons_append, splitDots, if_neg (plain char List.mem_cons_self),
      ih fun char member => plain char (List.mem_cons_of_mem _ member)]
    rfl

theorem ne_dot_of_isDigit {digits : List Char} (allDigits : digits.all Char.isDigit = true) :
    ∀ char ∈ digits, char ≠ '.' := by
  rintro char member rfl
  exact absurd (List.all_eq_true.mp allDigits _ member) (by decide)

/-- The text with some digits before and after a dot, which is left out if none follow. -/
def dottedText (whole fraction : List Char) : String :=
  if fraction = [] then String.ofList whole else String.ofList (whole ++ '.' :: fraction)

theorem decimalParts_dottedText {whole fraction : List Char} (nonempty : whole ≠ [])
    (wholeDigits : whole.all Char.isDigit = true)
    (fractionDigits : fraction.all Char.isDigit = true) :
    decimalParts (dottedText whole fraction) = .ok (whole, fraction) := by
  unfold dottedText
  split
  · rename_i empty
    subst empty
    simp [decimalParts, String.toList_ofList, splitDots_plain (ne_dot_of_isDigit wholeDigits),
      nonempty]
    exact List.all_eq_true.mp wholeDigits
  · simp [decimalParts, String.toList_ofList, splitDots_append (ne_dot_of_isDigit wholeDigits),
      splitDots_plain (ne_dot_of_isDigit fractionDigits), nonempty]
    exact ⟨List.all_eq_true.mp wholeDigits, List.all_eq_true.mp fractionDigits⟩

theorem read_dottedText {whole fraction padded : List Char} {amount : U256} {decimals : BitVec 8}
    (nonempty : whole ≠ []) (padding : List Char) (zeros : ∀ digit ∈ padding, digit = '0')
    (isPadded : whole ++ (fraction ++ padding) = padded)
    (length : (fraction ++ padding).length = decimals.toNat)
    (digits : padded.all Char.isDigit = true) (value : digitsValue padded = amount.toNat) :
    ∃ read, HumanAmount.fromStr (dottedText whole fraction) = .ok read ∧
      read.toBaseUnits decimals = .ok amount := by
  subst isPadded
  simp only [List.all_append, Bool.and_eq_true] at digits
  have parts := decimalParts_dottedText nonempty digits.1 digits.2.1
  let read : HumanAmount := ⟨dottedText whole fraction, whole, fraction, parts⟩
  refine ⟨read, ?_, ?_⟩
  · unfold HumanAmount.fromStr
    split
    · rename_i readWhole readFraction parsed
      cases parsed.symm.trans parts
      rfl
    · rename_i error parsed
      cases parsed.symm.trans parts
  · have fits : fraction.length ≤ decimals.toNat := by
      rw [← length, List.length_append]
      exact Nat.le_add_right _ _
    have isScaled : read.scaled decimals.toNat = whole ++ (fraction ++ padding) := by
      have isPadding : padding = List.replicate (decimals.toNat - fraction.length) '0' := by
        rw [List.eq_replicate_of_mem zeros, ← length, List.length_append, Nat.add_sub_cancel_left]
      simp only [HumanAmount.scaled, read, nonempty, if_false, List.append_assoc, ← isPadding]
    rw [HumanAmount.toBaseUnits_eq fits, isScaled, value, if_pos amount.isLt, BitVec.ofNat_toNat,
      BitVec.setWidth_eq]

theorem formatUnits_eq (amount : U256) (decimals : BitVec 8) :
    ∃ padded, padded.all Char.isDigit = true ∧ digitsValue padded = amount.toNat ∧
      decimals.toNat < padded.length ∧
      formatUnits amount decimals.toNat =
        dottedText (padded.take (padded.length - decimals.toNat))
          ((padded.drop (padded.length - decimals.toNat)).rdropWhile (· = '0')) := by
  have digits : (Nat.toDigits 10 amount.toNat).all Char.isDigit = true :=
    List.all_eq_true.mpr fun digit member =>
      Nat.isDigit_of_mem_toDigits (by decide) (by decide) member
  have value : digitsValue (Nat.toDigits 10 amount.toNat) = amount.toNat :=
    Nat.ofDigitChars_toDigits (by decide) (by decide)
  have nonempty : 0 < (Nat.toDigits 10 amount.toNat).length :=
    List.length_pos_iff.mpr Nat.toDigits_ne_nil
  by_cases none : decimals.toNat = 0
  · rw [none]
    refine ⟨_, digits, value, nonempty, ?_⟩
    simp [formatUnits, dottedText]
  · simp only [formatUnits, if_neg none, dottedText]
    split
    · rename_i short
      refine ⟨_, ?_, ?_, ?_, rfl⟩
      · rw [List.all_append, digits, Bool.and_true]
        exact List.all_eq_true.mpr fun digit member => by
          rw [List.eq_of_mem_replicate member]
          decide
      · rw [digitsValue_zeros_append, value]
      · rw [List.length_append, List.length_replicate]
        omega
    · rename_i long
      exact ⟨_, digits, value, Nat.not_le.mp long, rfl⟩

/-- Amounts survive being written and read; and what is read from any accepted text is exactly
the number that it stands for, unless that has too many decimal places or is too large. -/
theorem decimal_amounts_are_exact : (∀ (amount : U256) (decimals : BitVec 8), ∃ read,
      HumanAmount.fromStr (formatUnits amount decimals.toNat) = .ok read ∧
        read.toBaseUnits decimals = .ok amount) ∧
    (∀ (text : String) (amount : HumanAmount) (decimals : BitVec 8),
      HumanAmount.fromStr text = .ok amount → amount.Spelled text ∧
        (∀ units, amount.toBaseUnits decimals = .ok units →
          (units.toNat : ℚ) = amount.value * 10 ^ decimals.toNat) ∧
        ((∃ error, amount.toBaseUnits decimals = .error error) ↔
          decimals.toNat < amount.fraction.length ∨
            2 ^ 256 ≤ amount.value * 10 ^ decimals.toNat)) := by
  constructor
  case right =>
    intro text amount decimals isRead
    exact ⟨HumanAmount.text_of_fromStr isRead ▸ amount.spelled, amount.toBaseUnits_spec decimals⟩
  intro amount decimals
  obtain ⟨padded, digits, value, long, isText⟩ := formatUnits_eq amount decimals
  rw [isText]
  apply @read_dottedText _ _ padded amount decimals _
    ((padded.drop (padded.length - decimals.toNat)).rtakeWhile (· = '0'))
  · intro digit member
    simpa using List.mem_rtakeWhile_imp member
  · rw [List.rdropWhile_append_rtakeWhile, List.take_append_drop]
  · rw [List.rdropWhile_append_rtakeWhile, List.length_drop]
    omega
  · exact digits
  · exact value
  · apply List.ne_nil_of_length_pos
    rw [List.length_take]
    omega

end Axe.Intents

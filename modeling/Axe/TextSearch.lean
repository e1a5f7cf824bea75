import Mathlib.Tactic.Common

namespace Axe

/-!
# Searching in texts

Errors of nodes are classified by the texts they contain.
-/

/-- What follows the first occurrence of a part. -/
def afterPart (part : List Char) : List Char → Option (List Char)
  | [] => if part = [] then some [] else none
  | first :: rest =>
    if part.isPrefixOf (first :: rest) then
      some ((first :: rest).drop part.length)
    else
      afterPart part rest

def mentions (text part : String) : Bool := (afterPart part.toList text.toList).isSome

theorem afterPart_isSome_iff {part text : List Char} :
    (afterPart part text).isSome = true ↔ part <:+: text := by
  induction text with
  | nil =>
    by_cases empty : part = []
    · simp [afterPart, empty]
    · simp [afterPart, empty]
  | cons first rest ih =>
    rw [List.infix_cons_iff, ← ih]
    by_cases starts : part.isPrefixOf (first :: rest) = true
    · have found : part <+: first :: rest := List.isPrefixOf_iff_prefix.mp starts
      simp [afterPart, starts, found]
    · have different : ¬ part <+: first :: rest := fun found =>
        starts ( List.isPrefixOf_iff_prefix.mpr found)
      simp [afterPart, starts, different]

theorem mentions_iff {text part : String} :
    mentions text part = true ↔ part.toList <:+: text.toList :=
  afterPart_isSome_iff

def mentionsAny (parts : List String) (text : String) : Bool := parts.any (mentions text)

/-- A text with its ASCII letters in lower case. -/
def asciiLower (text : String) : String := String.ofList (text.toList.map Char.toLower)

/-- Whether two texts differ at most in the case of ASCII letters. -/
def eqIgnoreAsciiCase (first second : String) : Bool := asciiLower first = asciiLower second

/--
The lower case of one character.  Besides the ASCII letters these two are the
only characters with an ASCII letter in their lower case; any other keeps clear
of the texts that are searched for, which are ASCII.
-/
def lowerChar (char : Char) : List Char :=
  if char = Char.ofNat 0x212a then ['k']
  else if char = Char.ofNat 0x130 then ['i', Char.ofNat 0x307]
  else [char.toLower]

/-- A text in lower case, as far as a search for an ASCII text can tell. -/
def lowered (text : String) : String := String.ofList (text.toList.flatMap lowerChar)

def parseBelow (bound : Nat) (digits : List Char) : Option Nat :=
  let value := digits.foldl (fun value digit => value * 10 + (digit.toNat - '0'.toNat)) 0
  if digits = [] ∨ bound ≤ value then none else some value

def isWhiteSpace (char : Char) : Bool :=
  let code := char.toNat
  (9 ≤ code && code ≤ 13) || (0x2000 ≤ code && code ≤ 0x200a) ||
    [0x20, 0x85, 0xa0, 0x1680, 0x2028, 0x2029, 0x202f, 0x205f, 0x3000].contains code

/-- The character ends a URL. -/
def endsUrl (char : Char) : Bool :=
  isWhiteSpace char || "'\")],;<>".toList.contains char

/-- A URL starts here. -/
def startsUrl (text : List Char) : Bool :=
  "http://".toList.isPrefixOf text || "https://".toList.isPrefixOf text

/-- A text without its URLs; the flag says whether it starts inside one. -/
def scrubFrom : Bool → List Char → List Char
  | _, [] => []
  | true, char :: rest => if endsUrl char then char :: scrubFrom false rest else scrubFrom true rest
  | false, char :: rest =>
    if startsUrl (char :: rest) then
      "<redacted-url>".toList ++ scrubFrom true rest
    else
      char :: scrubFrom false rest

/-- Redact all URLs in a text. -/
def scrubUrls (text : String) : String := String.ofList (scrubFrom false text.toList)

def hexEncode (bytes : List UInt8) : String :=
  String.ofList
    (bytes.flatMap fun byte =>
      [Nat.digitChar (byte.toNat / 16), Nat.digitChar (byte.toNat % 16)])

end Axe

import Axe.PrefixCodec

namespace Axe.AbiLayout

open Axe.Codec (bigEndian fromBigEndian fromBigEndian_bigEndian bigEndian_length)

/-!
# Heads and tails

A tuple is laid out as one word for each of its parts, followed by the contents of the
parts whose size varies.  The word of such a part is the offset of its content, which
starts with its length.
-/

/-- A part of a tuple: a word of its own, or content elsewhere. -/
inductive Piece where
  | word (bytes : Bytes)
  | content (bytes : Bytes)
  deriving DecidableEq

/-- Whether a value stands behind the heads, with its offset in the head. -/
def Piece.dynamic : Piece → Bool
  | .word _ => false
  | .content _ => true

/-- A content with its length, filled up to whole words. -/
def sized (bytes : Bytes) : Bytes :=
  bigEndian 32 bytes.length ++ (bytes ++ List.replicate ((32 - bytes.length % 32) % 32) 0)

/-- The words of the parts, where the next content is put at an offset. -/
def heads : Nat → List Piece → Bytes
  | _, [] => []
  | offset, .word bytes :: rest => bytes ++ heads offset rest
  | offset, .content bytes :: rest =>
    bigEndian 32 offset ++ heads (offset + (sized bytes).length) rest

/-- The contents of the dynamic values, in order. -/
def tails : List Piece → Bytes
  | [] => []
  | .word _ :: rest => tails rest
  | .content bytes :: rest => sized bytes ++ tails rest

/-- The heads of all values, and behind them the contents. -/
def encode (pieces : List Piece) : Bytes := heads (32 * pieces.length) pieces ++ tails pieces

/-- The word at a position, if the data is long enough. -/
def wordAt (data : Bytes) (position : Nat) : Option Bytes :=
  if position + 32 ≤ data.length then some ((data.drop position).take 32) else none

/-- The sized content at an offset, if it lies within the data. -/
def contentAt (data : Bytes) (offset : Nat) : Option Bytes :=
  (wordAt data offset).bind fun length =>
    if offset + 32 + fromBigEndian length ≤ data.length then
      some ((data.drop (offset + 32)).take (fromBigEndian length))
    else
      none

/-- The parts from a position on, of which it is known whether their size varies. -/
def read (data : Bytes) : Nat → List Bool → Option (List Piece)
  | _, [] => some []
  | position, dynamic :: rest =>
    (wordAt data position).bind fun word =>
      (if dynamic then (contentAt data (fromBigEndian word)).map Piece.content
        else some (.word word)).bind fun piece => (read data (position + 32) rest).map (piece :: ·)

variable {data rest : Bytes} {position : Nat}

theorem wordAt_of_drop {word : Bytes} (here : data.drop position = word ++ rest)
    (whole : word.length = 32) :
    wordAt data position = some word := by
  have long := congrArg List.length here
  simp only [List.length_drop, List.length_append, whole] at long
  rw [wordAt, if_pos (by omega), here, List.take_left' whole]

theorem contentAt_of_drop {bytes : Bytes} {offset : Nat}
    (here : data.drop offset = sized bytes ++ rest) (fits : data.length < 256 ^ 32) :
    contentAt data offset = some bytes := by
  have long := congrArg List.length here
  simp only [sized, List.length_drop, List.length_append, bigEndian_length] at long
  have length := @fromBigEndian_bigEndian 32 bytes.length (by omega)
  have first : wordAt data offset = some (bigEndian 32 bytes.length) :=
    wordAt_of_drop (by rw [here, sized, List.append_assoc]) (bigEndian_length _ _)
  have later : data.drop (offset + 32) =
      bytes ++ (List.replicate ((32 - bytes.length % 32) % 32) 0 ++ rest) := by
    rw [← List.drop_drop, here, sized, List.append_assoc,
      List.drop_left' (bigEndian_length _ _), List.append_assoc]
  rw [contentAt, first, Option.bind_some, length, if_pos (by omega), later, List.take_left' rfl]

variable {pieces : List Piece}

theorem read_of_drop (fits : data.length < 256 ^ 32)
    (words : ∀ bytes, Piece.word bytes ∈ pieces → bytes.length = 32) {offset : Nat}
    (atHead : data.drop position = heads offset pieces ++ rest)
    (atTail : data.drop offset = tails pieces) :
    read data position (pieces.map Piece.dynamic) = some pieces := by
  induction pieces generalizing position offset with
  | nil => rfl
  | cons piece pieces ih =>
    have others : ∀ bytes, Piece.word bytes ∈ pieces → bytes.length = 32 :=
      fun bytes member => words bytes (List.mem_cons_of_mem _ member)
    cases piece with
    | word bytes =>
      have whole := words bytes List.mem_cons_self
      rw [heads, List.append_assoc] at atHead
      have next : data.drop (position + 32) = heads offset pieces ++ rest := by
        rw [← List.drop_drop, atHead, List.drop_left' whole]
      simp [read, Piece.dynamic, wordAt_of_drop atHead whole, ih others next atTail]
    | content bytes =>
      rw [heads, List.append_assoc] at atHead
      rw [tails] at atTail
      have long := congrArg List.length atTail
      simp only [sized, List.length_drop, List.length_append, bigEndian_length] at long
      have points := @fromBigEndian_bigEndian 32 offset (by omega)
      have next : data.drop (position + 32) =
          heads (offset + (sized bytes).length) pieces ++ rest := by
        rw [← List.drop_drop, atHead, List.drop_left' (bigEndian_length _ _)]
      have nextTail : data.drop (offset + (sized bytes).length) = tails pieces := by
        rw [← List.drop_drop, atTail, List.drop_left' rfl]
      simp [read, Piece.dynamic, wordAt_of_drop atHead (bigEndian_length _ _), points,
        contentAt_of_drop atTail fits, ih others next nextTail]

theorem length_heads (words : ∀ bytes, Piece.word bytes ∈ pieces → bytes.length = 32)
    (offset : Nat) :
    (heads offset pieces).length = 32 * pieces.length := by
  induction pieces generalizing offset with
  | nil => rfl
  | cons piece pieces ih =>
    have others := ih fun bytes member => words bytes (List.mem_cons_of_mem _ member)
    cases piece with
    | word bytes =>
      simp only [heads, List.length_append, List.length_cons, others,
        words bytes List.mem_cons_self]
      omega
    | content bytes =>
      simp only [heads, List.length_append, List.length_cons, others, bigEndian_length]
      omega

theorem read_encode (words : ∀ bytes, Piece.word bytes ∈ pieces → bytes.length = 32)
    (fits : (encode pieces).length < 256 ^ 32) :
    read (encode pieces) 0 (pieces.map Piece.dynamic) = some pieces := by
  apply read_of_drop fits words (rfl : _ = _ ++ tails pieces)
  exact List.drop_left' (length_heads words _)

theorem read_eq_none {kinds : List Bool} {index : Nat} (dynamic : kinds[index]? = some true)
    (far : data.length ≤ fromBigEndian ((data.drop (position + 32 * index)).take 32)) :
    read data position kinds = none := by
  induction kinds generalizing position index with
  | nil => simp at dynamic
  | cons kind kinds ih =>
    cases index with
    | zero =>
      obtain rfl : kind = true := by simpa using dynamic
      simp only [Nat.mul_zero, Nat.add_zero] at far
      simp only [read, wordAt]
      split
      · have outside : contentAt data (fromBigEndian ((data.drop position).take 32)) = none := by
          rw [contentAt, wordAt, if_neg (by omega), Option.bind_none]
        simp [outside]
      · rfl
    | succ index =>
      have later : read data (position + 32) kinds = none := by
        apply @ih (position + 32) index (by simpa using dynamic)
        rwa [show position + 32 + 32 * index = position + 32 * (index + 1) by omega]
      simp [read, later]

end Axe.AbiLayout

import Axe.HardenedJournal
import Axe.Rlp

namespace Axe.Hardened

/-!
# The address of a created contract

The address of a contract is the end of the hash of its creator and the nonce of
the creation, written as a list in recursive length prefixes.  The code writes
this list by hand.
-/

/-- The bytes from the first one that is not zero. -/
def stripLeadingZeros (bytes : Bytes) : Bytes := bytes.dropWhile fun byte => byte == 0

/-- The nonce as an item: shortest form, with a length from 128 on. -/
def createNonceItem (nonce : U64) : Bytes :=
  if nonce = 0 then
    [0x80]
  else if nonce < 0x80 then
    [UInt8.ofNat nonce.toNat]
  else
    let nonceBytes := stripLeadingZeros (Codec.bigEndian 8 nonce.toNat)
    UInt8.ofNat (0x80 + nonceBytes.length) :: nonceBytes

/-- The sender and the nonce as items of the list. -/
def createItems (sender : Address) (nonce : U64) : Bytes :=
  0x94 :: (Codec.bigEndian 20 sender.toNat ++ createNonceItem nonce)

/-- The header of a list. -/
def createListHeader (length : Nat) : Bytes :=
  if length < 56 then
    [UInt8.ofNat (0xc0 + length)]
  else
    let lengthBytes := stripLeadingZeros (Codec.bigEndian 8 length)
    UInt8.ofNat (0xf7 + lengthBytes.length) :: lengthBytes

/-- The bytes that are hashed to the address. -/
def createPreimage (sender : Address) (nonce : U64) : Bytes :=
  createListHeader (createItems sender nonce).length ++ createItems sender nonce

/-- The address of a contract that the sender creates with a nonce. -/
def computeCreateAddress (keccak256 : Bytes → Digest) (sender : Address) (nonce : U64) : Address :=
  BitVec.ofNat 160 (Codec.fromBigEndian ((keccak256 (createPreimage sender nonce)).drop 12))

theorem stripLeadingZeros_nonce (nonce : U64) :
    stripLeadingZeros (Codec.bigEndian 8 nonce.toNat) = Rlp.minimal nonce.toNat :=
  Rlp.dropWhile_bigEndian (Nat.lt_of_lt_of_le nonce.isLt (by decide))

theorem length_minimal_nonce (nonce : U64) : (Rlp.minimal nonce.toNat).length ≤ 8 :=
  Rlp.length_minimal_le (Nat.lt_of_lt_of_le nonce.isLt (by decide))

theorem createNonceItem_eq (nonce : U64) :
    createNonceItem nonce = Rlp.encodeString (Rlp.minimal nonce.toNat) := by
  unfold createNonceItem
  by_cases zero : nonce = 0
  · rw [if_pos zero, zero]
    simp [Rlp.encodeString, Rlp.header]
  · rw [if_neg zero]
    have positive : 0 < nonce.toNat := by
      apply Nat.pos_of_ne_zero
      intro isZero
      exact zero (BitVec.eq_of_toNat_eq isZero)
    by_cases small : nonce < 0x80
    · -- One byte that is its own encoding.
      have below : nonce.toNat < 128 := by simpa [BitVec.lt_def] using small
      have single : Rlp.minimal nonce.toNat = [UInt8.ofNat nonce.toNat] := by
        rw [Rlp.minimal_of_pos positive, Nat.div_eq_of_lt (by omega), Rlp.minimal_zero]
        rfl
      have byteSmall : UInt8.ofNat nonce.toNat < 0x80 := by
        rw [UInt8.lt_iff_toNat_lt, UInt8.toNat_ofNat']
        have large : (0x80 : UInt8).toNat = 128 := rfl
        omega
      rw [if_pos small, single, Rlp.encodeString, if_pos byteSmall]
    · have large : 128 ≤ nonce.toNat := by
        simpa [BitVec.lt_def] using small
      have bound := length_minimal_nonce nonce
      have isShort : (Rlp.minimal nonce.toNat).length < 56 := by omega
      rw [if_neg small, stripLeadingZeros_nonce]
      rcases Rlp.encodeString_cases isShort with
        ⟨single, isSingle, singleSmall, _⟩ | encoded
      · -- A number from 128 on is no single small byte.
        have value := Rlp.fromBigEndian_minimal nonce.toNat
        rw [isSingle] at value
        rw [UInt8.lt_iff_toNat_lt] at singleSmall
        have atMost : (0x80 : UInt8).toNat = 128 := rfl
        simp only [Codec.fromBigEndian, List.foldl_cons, List.foldl_nil] at value
        omega
      · exact encoded.symm

theorem length_createNonceItem (nonce : U64) : (createNonceItem nonce).length ≤ 9 := by
  have bound := length_minimal_nonce nonce
  have isShort : (Rlp.minimal nonce.toNat).length < 56 := by omega
  rw [createNonceItem_eq]
  rcases Rlp.encodeString_cases isShort with
    ⟨single, _, _, encoded⟩ | encoded
  · simp [encoded]
  · rw [encoded, List.length_cons]
    omega

theorem length_createItems (sender : Address) (nonce : U64) :
    (createItems sender nonce).length < 56 := by
  have bound := length_createNonceItem nonce
  simp only [createItems, List.length_cons, List.length_append, Codec.bigEndian_length]
  omega

theorem createItems_eq (sender : Address) (nonce : U64) : createItems sender nonce = Rlp.encodeAll
        [.string (Codec.bigEndian 20 sender.toNat), .string (Rlp.minimal nonce.toNat)] := by
  have creator : Rlp.encodeString (Codec.bigEndian 20 sender.toNat) =
        0x94 :: Codec.bigEndian 20 sender.toNat := by
    have isShort : (Codec.bigEndian 20 sender.toNat).length < 56 := by simp
    rcases Rlp.encodeString_cases isShort with ⟨single, isSingle, _, _⟩ | encoded
    · have length := congrArg List.length isSingle
      simp at length
    · rw [encoded, Codec.bigEndian_length]
      rfl
  simp [createItems, Rlp.encodeAll, Rlp.encode, creator, createNonceItem_eq]

theorem createPreimage_short (sender : Address) (nonce : U64) : createPreimage sender nonce =
      UInt8.ofNat (0xc0 + (createItems sender nonce).length) :: createItems sender nonce := by
  rw [createPreimage, createListHeader, if_pos (length_createItems sender nonce)]
  rfl

theorem createItems_inj {sender sender' : Address} {nonce nonce' : U64}
    (same : createItems sender nonce = createItems sender' nonce') :
    sender = sender' ∧ nonce = nonce' := by
  obtain ⟨sameSender, sameNonce⟩ :=
    (Codec.word 20 160 (by decide)).encode_append_inj (List.cons.inj same).2
  refine ⟨sameSender, ?_⟩
  rw [createNonceItem_eq, createNonceItem_eq] at sameNonce
  have bound := length_minimal_nonce nonce
  have bound' := length_minimal_nonce nonce'
  have sameBytes := Rlp.encodeString_inj (by omega) (by omega) sameNonce
  exact BitVec.eq_of_toNat_eq (Rlp.minimal_injective sameBytes)

/--
The bytes that are hashed for the address of a created contract are the canonical
encoding of its creator and its nonce, where the nonce is written without leading
zeros; and different creations have different bytes.
-/
theorem create_preimage_is_canonical : (∀ sender nonce, createPreimage sender nonce = Rlp.encode
          (.list [.string (Codec.bigEndian 20 sender.toNat), .string (Rlp.minimal nonce.toNat)])) ∧
      (∀ nonce : U64, Codec.fromBigEndian (Rlp.minimal nonce.toNat) = nonce.toNat ∧
          (Rlp.minimal nonce.toNat).head? ≠ some 0) ∧
      ∀ sender nonce sender' nonce', createPreimage sender nonce = createPreimage sender' nonce' →
          sender = sender' ∧ nonce = nonce' := by
  refine ⟨?_, ?_, ?_⟩
  · intro sender nonce
    have isShort := length_createItems sender nonce
    rw [createPreimage_short, Rlp.encode, createItems_eq]
    rw [createItems_eq] at isShort
    exact (Rlp.encodePayload_short isShort).symm
  · intro nonce
    exact ⟨Rlp.fromBigEndian_minimal _, Rlp.head?_minimal _⟩
  · intro sender nonce sender' nonce' same
    rw [createPreimage_short, createPreimage_short] at same
    exact createItems_inj (List.cons.inj same).2

/-- The bytes for nonces 127 and 128 of one creator, with their headers. -/
theorem create_preimage_is_canonical_of_two : createPreimage 1 127 ≠ createPreimage 1 128 ∧
      (createPreimage 1 128).drop 22 = [0x81, 0x80] := by
  refine ⟨?_, by decide⟩
  intro same
  have nonces := (create_preimage_is_canonical.2.2 1 127 1 128 same).2
  revert nonces
  decide

end Axe.Hardened

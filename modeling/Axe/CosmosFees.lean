import Axe.HardenedCosmos
import Axe.SamplePlatform

namespace Axe.Hardened

/-!
# A fee replacement changes nothing but the fee

Signing a recorded Cosmos transaction again first authenticates the original:
its hash, its only signer and signature, and that its authentication part is the
canonical encoding of what it decodes to.  Then one text is exchanged, the
amount of the only fee coin.
-/

/-- The same signer with another amount of the fee. -/
def AuthInfo.withFee (auth : AuthInfo) (fee : Fee) (denom amount : String) : AuthInfo :=
  { auth with fee := some { fee with amount := [⟨denom, amount⟩] } }

section Resign

variable {lib : Platform}

/-- What signing again asks of the recorded transaction. -/
structure Resignable (lib : Platform) (saved : CosmosTransaction) (signer : SigningKey)
    (chain : String) (account : Nat) (tx : TxRaw) (auth : AuthInfo) (fee : Fee) (denom : String)
    (value : Nat) : Prop where
  hash : lib.sha256 saved.raw = saved.hash
  decodesTx : lib.decodeTxRaw saved.raw = some tx
  decodesAuth : lib.decodeAuthInfo tx.authInfoBytes = some auth
  sender : lib.keyAccount signer = saved.sender
  signerInfos : ∃ modeInfo,
      auth.signerInfos = [⟨some (lib.publicKey signer), modeInfo, saved.sequence⟩]
  signature : ∃ signature, tx.signatures = [signature] ∧ lib.verify (lib.publicKey signer)
          (lib.encodeSignDoc ⟨tx.bodyBytes, tx.authInfoBytes, chain, account⟩)
          signature = true
  canonical : lib.encodeAuthInfo auth = tx.authInfoBytes
  hasFee : auth.fee = some fee
  single : fee.amount = [⟨denom, saved.fee⟩]
  readable : parseUnsigned (2 ^ 128) saved.fee = some value

/-- The encoded signer information with the raised fee. -/
def raisedAuthBytes (lib : Platform) (auth : AuthInfo) (fee : Fee) (denom : String)
    (amount : U128) : Bytes :=
  lib.encodeAuthInfo (auth.withFee fee denom (decimalText amount.toNat))

/-- The transaction with the raised fee, signed again. -/
def replacementTx (lib : Platform) (signer : SigningKey) (chain : String) (account : Nat)
    (amount : U128) (tx : TxRaw) (auth : AuthInfo) (fee : Fee) (denom : String) : TxRaw where
  bodyBytes := tx.bodyBytes
  authInfoBytes := raisedAuthBytes lib auth fee denom amount
  signatures :=
    [ lib.sign signer (lib.encodeSignDoc
          ⟨tx.bodyBytes, raisedAuthBytes lib auth fee denom amount, chain, account⟩) ]

theorem validateSequence_ok_iff {raw : Bytes} {expected : Nat} {tx : TxRaw} {auth : AuthInfo}
    (decodesTx : lib.decodeTxRaw raw = some tx)
    (decodesAuth : lib.decodeAuthInfo tx.authInfoBytes = some auth) :
    validateSequence lib raw expected = .ok () ↔
      auth.signerInfos.map SignerInfo.sequence = [expected] := by
  simp only [validateSequence, decodesTx, decodesAuth]
  by_cases same : auth.signerInfos.map SignerInfo.sequence = [expected]
  · simp [same]
  · simp [same]

theorem signerInfos_eq_iff {infos : List SignerInfo} {publicKey : Bytes} {sequence : Nat} :
    (infos.map SignerInfo.publicKey = [some publicKey] ∧
        infos.map SignerInfo.sequence = [sequence]) ↔
      ∃ modeInfo, infos = [⟨some publicKey, modeInfo, sequence⟩] := by
  constructor
  · rintro ⟨keys, sequences⟩
    match infos with
    | [] => simp at keys
    | [info] =>
      obtain ⟨key, modeInfo, number⟩ := info
      simp only [List.map_cons, List.map_nil, List.cons.injEq, and_true] at keys sequences
      exact ⟨modeInfo, by rw [keys, sequences]⟩
    | _ :: _ :: _ => simp at keys
  · rintro ⟨modeInfo, rfl⟩
    exact ⟨rfl, rfl⟩

variable {saved : CosmosTransaction} {signer : SigningKey}

theorem replacementSigner_ok_iff {tx : TxRaw} {auth : AuthInfo} {chain : String} {account : Nat} :
    replacementSigner lib saved signer tx auth chain account = .ok () ↔
      (lib.keyAccount signer = saved.sender ∧
        auth.signerInfos.map SignerInfo.publicKey = [some (lib.publicKey signer)]) ∧
      (∃ signature, tx.signatures = [signature] ∧ lib.verify (lib.publicKey signer)
            (lib.encodeSignDoc ⟨tx.bodyBytes, tx.authInfoBytes, chain, account⟩)
            signature = true) ∧
      lib.encodeAuthInfo auth = tx.authInfoBytes := by
  constructor
  · intro accepted
    unfold replacementSigner at accepted
    split at accepted
    · rename_i matched
      split at accepted
      · rename_i verified
        split at accepted
        · rename_i canonical
          obtain ⟨signature, alone⟩ := List.length_eq_one_iff.mp matched.2.2
          refine ⟨⟨matched.1, matched.2.1⟩, ⟨signature, alone, ?_⟩, canonical⟩
          simpa [alone] using verified
        · cases accepted
      · cases accepted
    · cases accepted
  · rintro ⟨⟨sender, keys⟩, ⟨signature, alone, verified⟩, canonical⟩
    simp [replacementSigner, sender, keys, alone, verified, canonical]

theorem raisedFee_ok_iff {fee raised : Fee} {old : String} {amount : U128} :
    raisedFee fee old amount = .ok raised ↔ ∃ denom value,
        fee.amount = [⟨denom, old⟩] ∧ parseUnsigned (2 ^ 128) old = some value ∧
          value < amount.toNat ∧
          raised = { fee with amount := [⟨denom, decimalText amount.toNat⟩] } := by
  constructor
  · intro accepted
    unfold raisedFee at accepted
    split at accepted
    · rename_i coin single
      split at accepted
      · rename_i same
        split at accepted
        · cases accepted
        · rename_i value reads
          split at accepted
          · rename_i higher
            cases accepted
            refine ⟨coin.denom, value, ?_, reads, higher, rfl⟩
            rw [single, ← same]
          · cases accepted
      · cases accepted
    · cases accepted
  · rintro ⟨denom, value, single, reads, higher, rfl⟩
    simp only [raisedFee, single, reads, if_pos higher, if_true]

theorem resign_ok_iff {result : CosmosTransaction} {chain : String} {account : Nat}
    {amount : U128} :
    resign lib saved signer chain account amount = .ok result ↔ ∃ tx auth fee denom value,
        Resignable lib saved signer chain account tx auth fee denom value ∧ value < amount.toNat ∧
          result =
            { saved with
              hash := lib.sha256 (lib.encodeTxRaw
                    (replacementTx lib signer chain account amount tx auth fee denom))
              raw := lib.encodeTxRaw
                  (replacementTx lib signer chain account amount tx auth fee denom)
              fee := decimalText amount.toNat } := by
  constructor
  · intro signs
    unfold resign at signs
    split at signs
    · rename_i hash
      split at signs
      · cases signs
      · rename_i tx decodesTx
        split at signs
        · cases signs
        · rename_i auth decodesAuth
          split at signs
          · cases signs
          · rename_i sequenced
            split at signs
            · cases signs
            · rename_i matched
              split at signs
              · cases signs
              · rename_i fee hasFee
                split at signs
                · cases signs
                · rename_i raised raises
                  cases signs
                  obtain ⟨signer', signed, canonical⟩ := replacementSigner_ok_iff.mp matched
                  have infos := signerInfos_eq_iff.mp ⟨signer'.2,
                        (validateSequence_ok_iff decodesTx decodesAuth).mp sequenced⟩
                  obtain ⟨denom, value, single, reads, higher, rfl⟩ := raisedFee_ok_iff.mp raises
                  exact ⟨tx, auth, fee, denom, value,
                      ⟨hash, decodesTx, decodesAuth, signer'.1, infos, signed, canonical,
                        hasFee, single, reads⟩,
                      higher, rfl⟩
    · cases signs
  · rintro ⟨tx, auth, fee, denom, value, checked, higher, rfl⟩
    have infos := signerInfos_eq_iff.mpr checked.signerInfos
    have sequenced := (validateSequence_ok_iff checked.decodesTx checked.decodesAuth).mpr infos.2
    have matched := replacementSigner_ok_iff.mpr
        ⟨⟨checked.sender, infos.1⟩, checked.signature, checked.canonical⟩
    have raises := raisedFee_ok_iff.mpr
        ⟨denom, value, checked.single, checked.readable, higher, rfl⟩
    unfold resign
    rw [if_pos checked.hash]
    simp only [checked.decodesTx, checked.decodesAuth, sequenced, matched, checked.hasFee, raises]
    rfl

theorem Resignable.again {saved : CosmosTransaction} {signer : SigningKey} {chain denom : String}
    {account value : Nat} {amount : U128} {tx : TxRaw} {auth : AuthInfo} {fee : Fee}
    (checked : Resignable lib saved signer chain account tx auth fee denom value) :
    Resignable lib
      { saved with
        hash := lib.sha256 (lib.encodeTxRaw
              (replacementTx lib signer chain account amount tx auth fee denom))
        raw := lib.encodeTxRaw
            (replacementTx lib signer chain account amount tx auth fee denom)
        fee := decimalText amount.toNat }
      signer chain account
      (replacementTx lib signer chain account amount tx auth fee denom)
      (auth.withFee fee denom (decimalText amount.toNat))
      { fee with amount := [⟨denom, decimalText amount.toNat⟩] }
      denom amount.toNat where
  hash := rfl
  decodesTx := lib.decodeTxRaw_encode _
  decodesAuth := lib.decodeAuthInfo_encode _
  sender := checked.sender
  signerInfos := checked.signerInfos
  signature := ⟨_, rfl, lib.verify_sign _ _⟩
  canonical := rfl
  hasFee := rfl
  single := rfl
  readable := parseUnsigned_decimalText amount.isLt

end Resign

/-- The result is the saved transaction with another amount of its fee, signed again. -/
structure ChangesOnlyFee (lib : Platform) (saved result : CosmosTransaction)
    (signer : SigningKey) (chain : String) (account : Nat) (amount : U128) : Prop where
  intent : result.intent = saved.intent
  sender : result.sender = saved.sender
  sequence : result.sequence = saved.sequence
  fee : result.fee = decimalText amount.toNat
  hash : result.hash = lib.sha256 result.raw
  bytes : ∃ oldTx newTx oldAuth newAuth oldFee coin value,
      (lib.decodeTxRaw saved.raw = some oldTx ∧ lib.decodeTxRaw result.raw = some newTx ∧
        newTx.bodyBytes = oldTx.bodyBytes) ∧
      (lib.decodeAuthInfo oldTx.authInfoBytes = some oldAuth ∧
        lib.decodeAuthInfo newTx.authInfoBytes = some newAuth) ∧
      (oldAuth.fee = some oldFee ∧ oldFee.amount = [coin] ∧ coin.amount = saved.fee) ∧
      newAuth =
        { oldAuth with
          fee :=
            some
              { oldFee with
                amount := [{ coin with amount := decimalText amount.toNat }] } } ∧
      (parseUnsigned (2 ^ 128) saved.fee = some value ∧ value < amount.toNat) ∧
      ∃ signature, newTx.signatures = [signature] ∧ lib.verify (lib.publicKey signer)
            (lib.encodeSignDoc ⟨newTx.bodyBytes, newTx.authInfoBytes, chain, account⟩)
            signature = true

/--
Signing a recorded transaction again changes the amount of its fee and its
signature, and nothing else; the result can be signed again in the same way for
any higher amount.
-/
theorem fee_replacement_changes_only_the_fee
    (lib : Platform)
    (saved result : CosmosTransaction)
    (signer : SigningKey)
    (chain : String)
    (account : Nat)
    (amount : U128)
    (signs : resign lib saved signer chain account amount = .ok result) :
    ChangesOnlyFee lib saved result signer chain account amount ∧ ∀ higher : U128,
        amount.toNat < higher.toNat →
          ∃ again, resign lib result signer chain account higher = .ok again := by
  obtain ⟨tx, auth, fee, denom, value, checked, raised, rfl⟩ := resign_ok_iff.mp signs
  constructor
  · refine ⟨rfl, rfl, rfl, rfl, rfl, ?_⟩
    refine ⟨tx, replacementTx lib signer chain account amount tx auth fee denom, auth,
      auth.withFee fee denom (decimalText amount.toNat), fee, ⟨denom, saved.fee⟩, value,
      ⟨checked.decodesTx, lib.decodeTxRaw_encode _, rfl⟩,
      ⟨checked.decodesAuth, lib.decodeAuthInfo_encode _⟩,
      ⟨checked.hasFee, checked.single, rfl⟩, rfl, ⟨checked.readable, raised⟩, ?_⟩
    exact ⟨_, rfl, lib.verify_sign _ _⟩
  · intro higher more
    exact ⟨_, resign_ok_iff.mpr ⟨_, _, _, _, _, checked.again, more, rfl⟩⟩

namespace Sample

def paid : CosmosTransaction :=
  let auth : AuthInfo := ⟨[⟨some [107], some [1], 4⟩], some ⟨[⟨"uaxl", "7"⟩], 9, "", ""⟩, none⟩
  let raw := txRaw.encode ⟨[2], authInfo.encode auth, [[1, 107]]⟩
  { intent := [], raw := raw, hash := raw, sender := "k", fee := "7", sequence := 4 }

end Sample

/-- A fee of seven is raised to nine, and the result can be raised again. -/
theorem fee_replacement_changes_only_the_fee_of_seven : ∃ result,
      resign Sample.platform Sample.paid ⟨[107]⟩ "axelar" 1 9 = .ok result ∧
        ChangesOnlyFee Sample.platform Sample.paid result ⟨[107]⟩ "axelar" 1 9 ∧
        ∃ again, resign Sample.platform result ⟨[107]⟩ "axelar" 1 12 = .ok again := by
  have accepted :
      (resign Sample.platform Sample.paid ⟨[107]⟩ "axelar" 1 9).toOption.isSome = true := by
    decide +kernel
  cases signs : resign Sample.platform Sample.paid ⟨[107]⟩ "axelar" 1 9 with
  | error message =>
    rw [signs] at accepted
    cases accepted
  | ok result =>
    have only := fee_replacement_changes_only_the_fee Sample.platform Sample.paid result ⟨[107]⟩
        "axelar" 1 9 signs
    exact ⟨result, rfl, only.1, only.2 12 (by decide)⟩

end Axe.Hardened

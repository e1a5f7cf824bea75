import Mathlib.Algebra.Order.Floor.Div
import Axe.HardenedVerifiers
import Axe.SamplePlatform

namespace Axe.Hardened

/-!
# Accepted verifier sets are well formed

Checking the set of the prover sorts its members by signing address.  An
accepted set has strictly ascending addresses, keeps every member with its
identity and its weight, and its threshold is the planned fraction of the total
weight, rounded up: a majority that the members can reach.
-/

def validThreshold (threshold : Nat × Nat) : Bool :=
  0 < threshold.1 && threshold.1 ≤ threshold.2 && threshold.2 < threshold.1 * 2

/-- A member of the set in the order of the gateway: address, identity, weight. -/
abbrev Member : Type := Address × String × U128

def memberWeight (members : List Member) : Nat := (members.map fun member => member.2.2.toNat).sum

/-- The count is within the limits of the service. -/
def WithinLimits (count : Nat) (service : VerifierService) : Prop :=
  service.minNumVerifiers ≤ count ∧ ∀ max ∈ service.maxNumVerifiers, count ≤ max

section Checks

variable {lib : Platform}

theorem validThreshold_iff {threshold : Nat × Nat} : validThreshold threshold = true ↔
      0 < threshold.1 ∧ threshold.1 ≤ threshold.2 ∧ threshold.2 < 2 * threshold.1 := by
  simp [validThreshold, and_assoc, Nat.mul_comm]

theorem validateCount_ok_iff {count : Nat} {service : VerifierService} :
    validateCount count service = .ok () ↔
      0 < service.minNumVerifiers ∧ WithinLimits count service := by
  constructor
  · intro accepted
    unfold validateCount validateLimits at accepted
    split at accepted
    · cases accepted
    · rename_i limits
      split at limits
      · rename_i positive
        split at accepted
        · rename_i within
          exact ⟨positive, within.1, by simpa [Option.all_eq_true] using within.2⟩
        · cases accepted
      · cases limits
  · rintro ⟨positive, low, high⟩
    have ordered :
        (service.maxNumVerifiers.all fun max => service.minNumVerifiers ≤ max) = true := by
      rw [Option.all_eq_true]
      intro max limit
      exact decide_eq_true (Nat.le_trans low (high max limit))
    have within : (service.maxNumVerifiers.all fun max => count ≤ max) = true := by
      rw [Option.all_eq_true]
      intro max limit
      exact decide_eq_true (high max limit)
    simp [validateCount, validateLimits, positive, ordered, low, within]

structure IsMember (lib : Platform) (signer : ProverSigner) (member : Member) : Prop where
  account : lib.accountPrefix signer.identity = some "axelar"
  address : signer.address = signer.identity
  key : lib.signerAddress signer.ecdsa = some member.1
  identity : member.2.1 = signer.identity
  weight : signer.weight.value = some member.2.2
  positive : 0 < member.2.2.toNat

variable {total : Nat}

theorem setMembers_ok_iff {sum : Nat} {signers : List ProverSigner} {found : List Member}
    (small : total < 2 ^ 128) :
    setMembers lib total signers = .ok (sum, found) ↔ List.Forall₂ (IsMember lib) signers found ∧
        sum = total + memberWeight found ∧ sum < 2 ^ 128 := by
  induction signers generalizing total sum found with
  | nil =>
    constructor
    · intro accepted
      cases accepted
      exact ⟨.nil, by simp [memberWeight], small⟩
    · rintro ⟨members, rfl, _⟩
      cases members
      simp [setMembers, memberWeight]
  | cons signer rest ih =>
    constructor
    · intro accepted
      unfold setMembers at accepted
      split at accepted
      · rename_i named
        split at accepted
        · cases accepted
        · rename_i weight weighs
          split at accepted
          · rename_i positive
            split at accepted
            · rename_i fits
              split at accepted
              · cases accepted
              · rename_i key decodes
                cases later : setMembers lib (total + weight.toNat) rest with
                | error message =>
                  rw [later] at accepted
                  cases accepted
                | ok pair =>
                  rw [later] at accepted
                  cases accepted
                  obtain ⟨members, sums, low⟩ := (ih fits).mp later
                  refine ⟨.cons ⟨named.1, named.2, decodes, rfl, weighs, positive⟩ members, ?_, low⟩
                  simp only [memberWeight, List.map_cons, List.sum_cons] at sums ⊢
                  omega
            · cases accepted
          · cases accepted
      · cases accepted
    · rintro ⟨members, sums, low⟩
      cases members with
      | @cons _ member _ later first members =>
        obtain ⟨key, identity, weight⟩ := member
        obtain ⟨account, address, decodes, same, weighs, positive⟩ := first
        dsimp only at decodes same weighs positive
        subst same
        simp only [memberWeight, List.map_cons, List.sum_cons] at sums
        have fits : total + weight.toNat < 2 ^ 128 := by omega
        have accepted : setMembers lib (total + weight.toNat) rest = .ok (sum, later) :=
          (ih fits).mpr ⟨members, by simp only [memberWeight]; omega, low⟩
        unfold setMembers
        rw [if_pos ⟨account, address⟩]
        simp only [weighs, if_pos positive, if_pos fits, decodes, accepted, Except.map]

theorem ascending_iff {addresses : List Address} :
    ascending addresses = true ↔ addresses.Pairwise (· < ·) := by
  rw [← List.isChain_iff_pairwise]
  induction addresses with
  | nil => simp [ascending]
  | cons first rest ih =>
    cases rest with
    | nil => simp [ascending]
    | cons second rest =>
      simp only [ascending, Bool.and_eq_true, decide_eq_true_eq, List.isChain_cons_cons, ih]

variable {fraction : Nat × Nat}

theorem requiredWeight_ok_iff {expected : Nat} (valid : validThreshold fraction = true) :
    requiredWeight total fraction = .ok expected ↔
      total * fraction.1 < 2 ^ 128 ∧ expected = (total * fraction.1) ⌈/⌉ fraction.2 := by
  obtain ⟨positive, proper, _⟩ := validThreshold_iff.mp valid
  unfold requiredWeight
  rw [if_pos ⟨positive, proper⟩, Nat.ceilDiv_eq_add_pred_div]
  by_cases fits : total * fraction.1 < 2 ^ 128
  · rw [if_pos fits]
    simp only [Except.ok.injEq, fits, true_and]
    exact eq_comm
  · rw [if_neg fits]
    simp only [fits, false_and, reduceCtorEq]

theorem ceilDiv_majority (valid : validThreshold fraction = true) (positive : 0 < total) :
    total < 2 * ((total * fraction.1) ⌈/⌉ fraction.2) ∧
      (total * fraction.1) ⌈/⌉ fraction.2 ≤ total := by
  obtain ⟨some, proper, major⟩ := validThreshold_iff.mp valid
  have denominator : 0 < fraction.2 := Nat.lt_of_lt_of_le some proper
  constructor
  · have covers : total * fraction.1 ≤ fraction.2 * ((total * fraction.1) ⌈/⌉ fraction.2) :=
      le_smul_ceilDiv denominator
    -- twice the quotient, times the denominator, exceeds the total times it
    have exceeds : total * fraction.2 < 2 * ((total * fraction.1) ⌈/⌉ fraction.2) * fraction.2 := by
      calc total * fraction.2
          < total * (2 * fraction.1) := Nat.mul_lt_mul_of_pos_left major positive
        _ = 2 * (total * fraction.1) := by ring
        _ ≤ 2 * (fraction.2 * ((total * fraction.1) ⌈/⌉ fraction.2)) := Nat.mul_le_mul_left 2 covers
        _ = 2 * ((total * fraction.1) ⌈/⌉ fraction.2) * fraction.2 := by ring
    exact Nat.lt_of_mul_lt_mul_right exceeds
  · rw [ceilDiv_le_iff_le_smul denominator, smul_eq_mul, Nat.mul_comm]
    exact Nat.mul_le_mul_right total proper

end Checks

def gatewayOrder (members : List Member) : List Member :=
  members.mergeSort fun first second => first.1 ≤ second.1

theorem gatewayOrder_perm (members : List Member) : (gatewayOrder members).Perm members :=
  List.mergeSort_perm members _

theorem ascending_gatewayOrder_iff {members : List Member} :
    ascending ((gatewayOrder members).map Prod.fst) = true ↔ (members.map Prod.fst).Nodup := by
  have ordered : ((gatewayOrder members).map Prod.fst).Pairwise (· ≤ ·) := by
    rw [List.pairwise_map]
    have sorted : (gatewayOrder members).Pairwise fun first second =>
          decide (first.1 ≤ second.1) = true := by
      apply List.pairwise_mergeSort
      · intro first second third low high
        exact decide_eq_true (BitVec.le_trans (of_decide_eq_true low) (of_decide_eq_true high))
      · intro first second
        simpa using BitVec.le_total first.1 second.1
    exact sorted.imp fun low => of_decide_eq_true low
  have listed : ((gatewayOrder members).map Prod.fst).Nodup ↔ (members.map Prod.fst).Nodup :=
    ((gatewayOrder_perm members).map Prod.fst).nodup_iff
  rw [ascending_iff, ← listed]
  constructor
  · intro strict
    exact strict.imp fun low => BitVec.ne_of_lt low
  · intro distinct
    exact (ordered.and distinct).imp fun pair => BitVec.lt_of_le_ne pair.1 pair.2

section Members

variable {lib : Platform}

def signerPair (lib : Platform) (signer : ProverSigner) : Option (Address × U128) :=
  match lib.signerAddress signer.ecdsa, signer.weight.value with
  | some key, some weight => some (key, weight)
  | _, _ => none

def signerRow (lib : Platform) (signer : ProverSigner) : Option ((Address × U128) × String) :=
  (signerPair lib signer).map fun pair => (pair, signer.identity)

variable {signers : List ProverSigner} {found : List Member}

theorem rows_of_members (members : List.Forall₂ (IsMember lib) signers found) :
    signers.map (signerRow lib) =
      found.map fun member => some ((member.1, member.2.2), member.2.1) := by
  induction members with
  | nil => rfl
  | cons first _ ih =>
    rw [List.map_cons, List.map_cons, ih]
    simp [signerRow, signerPair, first.key, first.weight, first.identity]

theorem pairs_of_members (members : List.Forall₂ (IsMember lib) signers found) :
    signers.map (signerPair lib) = found.map fun member => some (member.1, member.2.2) := by
  have rows := congrArg (List.map (Option.map Prod.fst)) (rows_of_members members)
  simpa [Function.comp_def, signerRow] using rows

theorem exists_members {keys : List Address} {weights : List U128}
    (accounts : ∀ signer ∈ signers, lib.accountPrefix signer.identity = some "axelar" ∧
          signer.address = signer.identity)
    (decoded : signers.map (fun signer => lib.signerAddress signer.ecdsa) = keys.map some)
    (weighed : signers.map (fun signer => signer.weight.value) = weights.map some)
    (positive : ∀ weight ∈ weights, 0 < weight.toNat) :
    ∃ found, List.Forall₂ (IsMember lib) signers found ∧ found.map Prod.fst = keys ∧
          found.map (fun member => member.2.2) = weights := by
  induction signers generalizing keys weights with
  | nil =>
    have noKeys : keys = [] := by simpa using decoded.symm
    have noWeights : weights = [] := by simpa using weighed.symm
    subst noKeys noWeights
    exact ⟨[], .nil, rfl, rfl⟩
  | cons signer rest ih =>
    rcases keys with _ | ⟨key, keys⟩
    · simp at decoded
    · rcases weights with _ | ⟨weight, weights⟩
      · simp at weighed
      · simp only [List.map_cons, List.cons.injEq] at decoded weighed
        obtain ⟨found, members, foundKeys, foundWeights⟩ := ih
            (fun signer member => accounts signer (List.mem_cons_of_mem _ member))
            decoded.2 weighed.2
            (fun weight member => positive weight (List.mem_cons_of_mem _ member))
        have named := accounts signer List.mem_cons_self
        refine ⟨(key, signer.identity, weight) :: found, .cons ?_ members, ?_, ?_⟩
        · exact ⟨named.1, named.2, decoded.1, rfl, weighed.1, positive weight List.mem_cons_self⟩
        · rw [List.map_cons, foundKeys]
        · rw [List.map_cons, foundWeights]

theorem fields_of_members (members : List.Forall₂ (IsMember lib) signers found) :
    (∀ signer ∈ signers, lib.accountPrefix signer.identity = some "axelar" ∧
          signer.address = signer.identity) ∧
      signers.map (fun signer => lib.signerAddress signer.ecdsa) = (found.map Prod.fst).map some ∧
      signers.map (fun signer => signer.weight.value) =
        (found.map fun member => member.2.2).map some ∧
      ∀ member ∈ found, 0 < member.2.2.toNat := by
  induction members with
  | nil => simp
  | cons first _ ih =>
    obtain ⟨accounts, keys, weights, positive⟩ := ih
    refine ⟨?_, ?_, ?_, ?_⟩
    · exact List.forall_mem_cons.mpr ⟨⟨first.account, first.address⟩, accounts⟩
    · simp only [List.map_cons, keys, first.key]
    · simp only [List.map_cons, weights, first.weight]
    · exact List.forall_mem_cons.mpr ⟨first.positive, positive⟩

theorem validateVerifierSet_ok_iff {set : ProverSet} {service : VerifierService}
    {fraction : Nat × Nat} {initial : InitialSigners} (valid : validThreshold fraction = true) :
    validateVerifierSet lib set service fraction = .ok initial ↔
      (0 < service.minNumVerifiers ∧ WithinLimits set.signers.length service) ∧ set.id ≠ "" ∧
        ∃ found threshold, (List.Forall₂ (IsMember lib) set.signers found ∧
            memberWeight found < 2 ^ 128) ∧
          (found.map Prod.fst).Nodup ∧
          memberWeight found * fraction.1 < 2 ^ 128 ∧
          set.threshold.value = some threshold ∧
          (0 < threshold.toNat ∧
            threshold.toNat = (memberWeight found * fraction.1) ⌈/⌉ fraction.2) ∧
          initial = snapshotSigners lib
              ((gatewayOrder found).map fun member => member.2.1)
              ((gatewayOrder found).map fun member => (member.1, member.2.2))
              threshold
              (word256.encode (set.createdAt.setWidth 256))
              set.id := by
  constructor
  · intro accepted
    unfold validateVerifierSet at accepted
    cases counted : validateCount set.signers.length service with
    | error message =>
      rw [counted] at accepted
      cases accepted
    | ok =>
      rw [counted] at accepted
      by_cases unnamed : set.id = ""
      · simp only [if_pos unnamed] at accepted
        cases accepted
      · simp only [if_neg unnamed] at accepted
        cases listed : setMembers lib 0 set.signers with
        | error message =>
          rw [listed] at accepted
          cases accepted
        | ok pair =>
          obtain ⟨sum, found⟩ := pair
          rw [listed] at accepted
          obtain ⟨members, sums, small⟩ := (setMembers_ok_iff (by decide)).mp listed
          rw [Nat.zero_add] at sums
          subst sums
          change (if ascending ((gatewayOrder found).map Prod.fst) = true then _ else _) = _
            at accepted
          split at accepted
          · rename_i sorted
            cases required : requiredWeight (memberWeight found) fraction with
            | error message =>
              rw [required] at accepted
              cases accepted
            | ok expected =>
              obtain ⟨fits, rounded⟩ := (requiredWeight_ok_iff valid).mp required
              rw [required] at accepted
              cases reads : set.threshold.value with
              | none =>
                rw [reads] at accepted
                cases accepted
              | some threshold =>
                rw [reads] at accepted
                simp only [bind, Except.bind] at accepted
                split at accepted
                · rename_i meets
                  cases accepted
                  refine ⟨validateCount_ok_iff.mp counted, unnamed, found, threshold,
                    ⟨members, small⟩, ascending_gatewayOrder_iff.mp sorted, fits, rfl,
                    ⟨meets.1, meets.2.trans rounded⟩, rfl⟩
                · cases accepted
          · cases accepted
  · rintro ⟨count, named, found, threshold, members, distinct, fits, reads, meets, rfl⟩
    have counted := validateCount_ok_iff.mpr count
    have listed : setMembers lib 0 set.signers = .ok (memberWeight found, found) :=
      (setMembers_ok_iff (by decide)).mpr ⟨members.1, (Nat.zero_add _).symm, members.2⟩
    have sorted := ascending_gatewayOrder_iff.mpr distinct
    have required := (requiredWeight_ok_iff valid).mpr ⟨fits, rfl⟩
    unfold validateVerifierSet
    rw [counted]
    simp only [bind, Except.bind, if_neg named, listed]
    change (if ascending ((gatewayOrder found).map Prod.fst) = true then _ else _) = _
    rw [if_pos sorted]
    simp only [required, reads, if_pos meets]
    rfl

end Members

/-- What the gateway is given for the set of a prover. -/
structure WellFormedSigners (lib : Platform) (set : ProverSet) (service : VerifierService)
    (fraction : Nat × Nat) (initial : InitialSigners) : Prop where
  permuted : (initial.signers.map some).Perm (set.signers.map (signerPair lib))
  sameLength : initial.identities.length = initial.signers.length
  aligned : ((initial.signers.zip initial.identities).map some).Perm
      (set.signers.map (signerRow lib))
  ascending : initial.signers.Pairwise fun first second => first.1 < second.1
  positive : ∀ signer ∈ initial.signers, 0 < signer.2.toNat
  fits : (initial.signers.map fun signer => signer.2.toNat).sum < 2 ^ 128
  threshold : initial.threshold.toNat =
      ((initial.signers.map fun signer => signer.2.toNat).sum * fraction.1) ⌈/⌉ fraction.2
  majority : (initial.signers.map fun signer => signer.2.toNat).sum < 2 * initial.threshold.toNat
  reachable : 2 * initial.threshold.toNat ≤
      2 * (initial.signers.map fun signer => signer.2.toNat).sum
  count : WithinLimits initial.signers.length service

/-- What an accepted set is like: its size, its accounts, its keys and its weights. -/
structure MatchingSet (lib : Platform) (set : ProverSet) (service : VerifierService)
    (fraction : Nat × Nat) : Prop where
  count : WithinLimits set.signers.length service
  accounts : ∀ signer ∈ set.signers, lib.accountPrefix signer.identity = some "axelar" ∧
        signer.address = signer.identity
  keys : ∃ keys : List Address,
      set.signers.map (fun signer => lib.signerAddress signer.ecdsa) = keys.map some ∧ keys.Nodup
  weights : ∃ weights : List U128,
      set.signers.map (fun signer => signer.weight.value) = weights.map some ∧
        (∀ weight ∈ weights, 0 < weight.toNat) ∧
        (weights.map BitVec.toNat).sum * fraction.1 < 2 ^ 128 ∧
        ∃ threshold, set.threshold.value = some threshold ∧ threshold.toNat =
              ((weights.map BitVec.toNat).sum * fraction.1) ⌈/⌉ fraction.2

/-- A matching set with a name, of a service that asks for at least one verifier. -/
structure AcceptableSet (lib : Platform) (set : ProverSet) (service : VerifierService)
    (fraction : Nat × Nat) : Prop
    extends MatchingSet lib set service fraction where
  named : set.id ≠ ""
  minimum : 0 < service.minNumVerifiers

section Acceptance

variable {lib : Platform} {set : ProverSet} {service : VerifierService} {fraction : Nat × Nat}

theorem memberWeight_pos {found : List Member} (some : 0 < found.length)
    (positive : ∀ member ∈ found, 0 < member.2.2.toNat) :
    0 < memberWeight found := by
  rcases found with _ | ⟨first, rest⟩
  · simp at some
  · have heavy := positive first List.mem_cons_self
    simp only [memberWeight, List.map_cons, List.sum_cons]
    omega

theorem wellFormed_of_ok {initial : InitialSigners} (valid : validThreshold fraction = true)
    (accepted : validateVerifierSet lib set service fraction = .ok initial) :
    WellFormedSigners lib set service fraction initial := by
  obtain ⟨count, _, found, threshold, members, distinct, _, _, meets, rfl⟩ :=
    (validateVerifierSet_ok_iff valid).mp accepted
  obtain ⟨_, _, _, positive⟩ := fields_of_members members.1
  have sorted := gatewayOrder_perm found
  have length : found.length = set.signers.length := members.1.length_eq.symm
  have weight : (((gatewayOrder found).map fun member => (member.1, member.2.2)).map
        fun signer => signer.2.toNat).sum = memberWeight found := by
    rw [List.map_map]
    exact (sorted.map fun member => member.2.2.toNat).sum_eq
  have heavy : 0 < memberWeight found := memberWeight_pos
      (length ▸ Nat.lt_of_lt_of_le count.1 count.2.1) positive
  have rounded := ceilDiv_majority valid heavy
  have rows : (((gatewayOrder found).map fun member => (member.1, member.2.2)).zip
            ((gatewayOrder found).map fun member => member.2.1)).map some =
        (gatewayOrder found).map fun member =>
          some ((member.1, member.2.2), member.2.1) := by
    rw [List.zip_map', List.map_map]
    rfl
  have aligned : ((((gatewayOrder found).map fun member => (member.1, member.2.2)).zip
            ((gatewayOrder found).map fun member => member.2.1)).map some).Perm
        (set.signers.map (signerRow lib)) := by
    rw [rows, rows_of_members members.1]
    exact sorted.map _
  refine
    { permuted := ?_
      sameLength := by simp [snapshotSigners]
      aligned := aligned
      ascending := ?_
      positive := ?_
      fits := weight.symm ▸ members.2
      threshold := weight.symm ▸ meets.2
      majority := ?_
      reachable := ?_
      count := ?_ }
  · rw [pairs_of_members members.1]
    simpa [snapshotSigners, Function.comp_def] using
      sorted.map fun member => some (member.1, member.2.2)
  · have strict := ascending_iff.mp (ascending_gatewayOrder_iff.mpr distinct)
    simpa [snapshotSigners, List.pairwise_map] using strict
  · intro signer listed
    obtain ⟨member, inOrder, rfl⟩ := List.mem_map.mp listed
    exact positive member (sorted.mem_iff.mp inOrder)
  · change _ < 2 * threshold.toNat
    rw [meets.2]
    exact weight.symm ▸ rounded.1
  · change 2 * threshold.toNat ≤ _
    rw [meets.2]
    exact Nat.mul_le_mul_left 2 (weight.symm ▸ rounded.2)
  · have kept : (gatewayOrder found).length = set.signers.length := sorted.length_eq.trans length
    simpa [snapshotSigners, kept] using count.2

theorem accepts_iff (valid : validThreshold fraction = true) :
    (∃ initial, validateVerifierSet lib set service fraction = .ok initial) ↔
      AcceptableSet lib set service fraction := by
  constructor
  · rintro ⟨initial, accepted⟩
    obtain ⟨count, named, found, threshold, members, distinct, fits, reads, meets, _⟩ :=
      (validateVerifierSet_ok_iff valid).mp accepted
    obtain ⟨accounts, keys, weights, positive⟩ := fields_of_members members.1
    have sums : ((found.map fun member => member.2.2).map BitVec.toNat).sum =
          memberWeight found := by
      rw [List.map_map]
      rfl
    refine ⟨⟨count.2, accounts, ⟨_, keys, distinct⟩, ⟨_, weights, ?_, ?_, ?_⟩⟩, named, count.1⟩
    · intro weight listed
      obtain ⟨member, inside, rfl⟩ := List.mem_map.mp listed
      exact positive member inside
    · rw [sums]
      exact fits
    · rw [sums]
      exact ⟨threshold, reads, meets.2⟩
  · intro acceptable
    obtain ⟨keys, decoded, distinct⟩ := acceptable.keys
    obtain ⟨weights, weighed, positive, fits, threshold, reads, rounded⟩ := acceptable.weights
    obtain ⟨found, members, rfl, rfl⟩ := exists_members acceptable.accounts decoded weighed positive
    have sums : ((found.map fun member => member.2.2).map BitVec.toNat).sum =
          memberWeight found := by
      rw [List.map_map]
      rfl
    rw [sums] at fits rounded
    have length : found.length = set.signers.length := members.length_eq.symm
    have heavy : 0 < memberWeight found := memberWeight_pos
        (length ▸ Nat.lt_of_lt_of_le acceptable.minimum acceptable.count.1)
        fun member inside => positive _ (List.mem_map_of_mem inside)
    have asked : 0 < threshold.toNat := by
      have major := (ceilDiv_majority valid heavy).1
      omega
    have small : memberWeight found < 2 ^ 128 := Nat.lt_of_le_of_lt
        (Nat.le_mul_of_pos_right _ (validThreshold_iff.mp valid).1) fits
    refine ⟨_, (validateVerifierSet_ok_iff valid).mpr
      ⟨⟨acceptable.minimum, acceptable.count⟩, acceptable.named, found, threshold,
        ⟨members, small⟩, distinct, fits, reads, ⟨asked, rounded⟩, rfl⟩⟩

end Acceptance

/--
An accepted verifier set is a well-formed set of signers, and a set is accepted
exactly if it agrees with the service, the accounts and the planned fraction,
has a name, and the service asks for at least one verifier.
-/
theorem accepted_verifier_sets_are_well_formed
    (lib : Platform)
    (set : ProverSet)
    (service : VerifierService)
    (fraction : Nat × Nat)
    (valid : validThreshold fraction = true) :
    (∀ initial, validateVerifierSet lib set service fraction = .ok initial →
          WellFormedSigners lib set service fraction initial) ∧
      ((∃ initial, validateVerifierSet lib set service fraction = .ok initial) ↔
        AcceptableSet lib set service fraction) :=
  ⟨fun _ accepted => wellFormed_of_ok valid accepted, accepts_iff valid⟩

namespace Sample

def proverSigners : List ProverSigner := [⟨"v", "v", "key", .text "4"⟩, ⟨"w", "w", "k", .number 3⟩]

def proverSet (id : String) : ProverSet where
  id := id
  signers := proverSigners
  threshold := .text "5"
  createdAt := 1

theorem proverSigners_weights :
    proverSigners.map (fun signer => signer.weight.value) = [some 4, some 3] := by
  decide +kernel

theorem threshold_value : (Amount.text "5").value = some 5 := by decide +kernel

theorem proverSet_matches (id : String) (minimum : Nat) (few : minimum ≤ 2) :
    MatchingSet platform (proverSet id) ⟨minimum, none⟩ (2, 3) where
  count := ⟨few, by simp⟩
  accounts := by simp [proverSet, proverSigners, platform]
  keys := ⟨[3, 1], rfl, by decide⟩
  weights := by
    refine ⟨[4, 3], proverSigners_weights, by simp, by simp, 5, threshold_value, ?_⟩
    rw [Nat.ceilDiv_eq_add_pred_div]
    simp

end Sample

/-- Both verifiers of the sample set become signers of the gateway. -/
theorem accepted_verifier_sets_are_well_formed_of_two : ∃ initial,
      validateVerifierSet Sample.platform (Sample.proverSet "s") ⟨1, none⟩ (2, 3) = .ok initial ∧
        WellFormedSigners Sample.platform (Sample.proverSet "s") ⟨1, none⟩ (2, 3)
          initial := by
  have checked := accepted_verifier_sets_are_well_formed Sample.platform (Sample.proverSet "s")
      ⟨1, none⟩ (2, 3) (by decide)
  obtain ⟨initial, accepted⟩ := checked.2.mpr
      ⟨Sample.proverSet_matches "s" 1 (by decide), by decide, by decide⟩
  exact ⟨initial, accepted, checked.1 initial accepted⟩

/-- The same set is refused without a name, and by a service without a minimum. -/
theorem matching_verifier_sets_are_refused :
    MatchingSet Sample.platform (Sample.proverSet "") ⟨1, none⟩ (2, 3) ∧
      validateVerifierSet Sample.platform (Sample.proverSet "") ⟨1, none⟩ (2, 3) =
        .error "missing prover verifier set ID" ∧
      MatchingSet Sample.platform (Sample.proverSet "s") ⟨0, none⟩ (2, 3) ∧
      validateVerifierSet Sample.platform (Sample.proverSet "s") ⟨0, none⟩ (2, 3) =
        .error "service minimum must be positive" :=
  ⟨Sample.proverSet_matches "" 1 (by decide), by rfl,
    Sample.proverSet_matches "s" 0 (by decide), by rfl⟩

end Axe.Hardened

import Mathlib.Data.List.AList
import Mathlib.Algebra.BigOperators.Group.Finset.Piecewise
import Mathlib.Algebra.Order.BigOperators.Group.Finset
import Mathlib.Tactic.Ring

namespace Axe

/-!
# Sums of per-slot maxima

Several offers compete for one slot and at most one of them is ever paid.  What
is committed is therefore the sum, over the slots, of the largest offer for the
slot.  This module has the fold that computes it in one pass, the closed form
of that fold, and the bounds a budget check needs.
-/

namespace SlotMaxima

variable {Slot : Type} [DecidableEq Slot]

def raise (maxima : AList fun _ : Slot => Nat) (offer : Slot × Nat) : AList fun _ : Slot => Nat :=
  maxima.insert offer.1 (max ((maxima.lookup offer.1).getD 0) offer.2)

def maxima (offers : List (Slot × Nat)) : AList fun _ : Slot => Nat := offers.foldl raise ∅

def checkedSum (limit : Nat) (values : List Nat) : Option Nat :=
  values.foldl
    (fun sum value =>
      sum.bind fun sum =>
        if sum + value < limit then some (sum + value) else none)
    (some 0)

/-- The largest offer for a slot. -/
def peak (offers : List (Slot × Nat)) (slot : Slot) : Nat :=
  ((offers.filter fun offer => offer.1 = slot).map Prod.snd).foldr max 0

def slots (offers : List (Slot × Nat)) : Finset Slot := (offers.map Prod.fst).toFinset

/-- What all slots can cost together. -/
def committed (offers : List (Slot × Nat)) : Nat := ∑ slot ∈ slots offers, peak offers slot

omit [DecidableEq Slot] in
private theorem foldr_max_le (values : List Nat) (bound : Nat) :
    values.foldr max 0 ≤ bound ↔ ∀ value ∈ values, value ≤ bound := by
  induction values with
  | nil => simp
  | cons value values ih => simp [ih]

variable {offers : List (Slot × Nat)} {slot : Slot}

theorem peak_le_iff {bound : Nat} : peak offers slot ≤ bound ↔
      ∀ cost, (slot, cost) ∈ offers → cost ≤ bound := by
  unfold peak
  rw [foldr_max_le]
  constructor
  · intro below cost member
    exact below cost (List.mem_map.mpr ⟨(slot, cost), by simpa using member, rfl⟩)
  · intro below value member
    obtain ⟨⟨owner, cost⟩, kept, rfl⟩ := List.mem_map.mp member
    obtain ⟨inside, same⟩ := List.mem_filter.mp kept
    have owned : owner = slot := by simpa using same
    subst owned
    exact below cost inside

theorem le_peak {cost : Nat} (member : (slot, cost) ∈ offers) : cost ≤ peak offers slot :=
  peak_le_iff.mp le_rfl cost member

variable {more : List (Slot × Nat)}

theorem peak_mono (subset : offers ⊆ more) (slot : Slot) : peak offers slot ≤ peak more slot :=
  peak_le_iff.mpr fun _ member => le_peak (subset member)

theorem mem_slots : slot ∈ slots offers ↔ ∃ cost, (slot, cost) ∈ offers := by simp [slots]

theorem committed_mono (subset : offers ⊆ more) : committed offers ≤ committed more := by
  have wider : slots offers ⊆ slots more := by
    intro slot member
    obtain ⟨cost, inside⟩ := mem_slots.mp member
    exact mem_slots.mpr ⟨cost, subset inside⟩
  calc committed offers ≤ ∑ slot ∈ slots offers, peak more slot :=
        Finset.sum_le_sum fun slot _ => peak_mono subset slot
    _ ≤ committed more := Finset.sum_le_sum_of_subset wider

theorem committed_congr {others : List (Slot × Nat)}
    (same : ∀ offer, offer ∈ offers ↔ offer ∈ others) :
    committed offers = committed others :=
  le_antisymm (committed_mono fun offer => (same offer).mp)
    (committed_mono fun offer => (same offer).mpr)

private theorem committed_cons_le (slot : Slot) (cost : Nat) (offers : List (Slot × Nat)) :
    committed ((slot, cost) :: offers) ≤ committed offers + cost := by
  have grown : ∀ other, peak ((slot, cost) :: offers) other ≤
        peak offers other + if other = slot then cost else 0 := by
    intro other
    refine peak_le_iff.mpr fun amount member => ?_
    rcases List.mem_cons.mp member with first | later
    · obtain ⟨rfl, rfl⟩ := Prod.mk.inj first
      simp
    · exact (le_peak later).trans (Nat.le_add_right _ _)
  have covered : slots ((slot, cost) :: offers) = insert slot (slots offers) := by simp [slots]
  have outside : ∑ other ∈ insert slot (slots offers), peak offers other = committed offers := by
    refine (Finset.sum_subset (Finset.subset_insert slot _) ?_).symm
    intro other _ absent
    refine Nat.le_zero.mp (peak_le_iff.mpr fun amount member => ?_)
    exact absurd (mem_slots.mpr ⟨amount, member⟩) absent
  calc committed ((slot, cost) :: offers) ≤ ∑ other ∈ insert slot (slots offers),
          (peak offers other + if other = slot then cost else 0) := by
        unfold committed
        rw [covered]
        exact Finset.sum_le_sum fun other _ => grown other
    _ = committed offers + cost := by
        rw [Finset.sum_add_distrib, outside, Finset.sum_ite_eq']
        simp

theorem committed_append_le (offers : List (Slot × Nat)) (slot : Slot) (cost : Nat) :
    committed (offers ++ [(slot, cost)]) ≤ committed offers + cost := by
  have reordered : committed (offers ++ [(slot, cost)]) = committed ((slot, cost) :: offers) :=
    committed_congr fun _ => by simp [or_comm]
  exact reordered ▸ committed_cons_le slot cost offers

/--
Payments for different slots, each within some offer for its slot, stay within
the commitment.
-/
theorem sum_payments_le
    {Payment : Type}
    {payments : List Payment}
    {slotOf : Payment → Slot}
    {paid : Payment → Nat}
    (distinct : (payments.map slotOf).Nodup)
    (within : ∀ payment ∈ payments, ∃ cost, (slotOf payment, cost) ∈ offers ∧ paid payment ≤ cost) :
    (payments.map paid).sum ≤ committed offers := by
  have inside : (payments.map slotOf).toFinset ⊆ slots offers := by
    intro slot member
    obtain ⟨payment, listed, rfl⟩ := List.mem_map.mp (List.mem_toFinset.mp member)
    obtain ⟨cost, offered, _⟩ := within payment listed
    exact mem_slots.mpr ⟨cost, offered⟩
  calc (payments.map paid).sum
      ≤ (payments.map fun payment => peak offers (slotOf payment)).sum := by
        refine List.sum_le_sum fun payment listed => ?_
        obtain ⟨cost, offered, below⟩ := within payment listed
        exact below.trans (le_peak offered)
    _ = ∑ slot ∈ (payments.map slotOf).toFinset, peak offers slot := by
        rw [List.sum_toFinset _ distinct, List.map_map]
        rfl
    _ ≤ committed offers := Finset.sum_le_sum_of_subset inside

private theorem maxima_append (offers : List (Slot × Nat)) (offer : Slot × Nat) :
    maxima (offers ++ [offer]) = raise (maxima offers) offer := by
  simp [maxima]

theorem lookup_maxima (offers : List (Slot × Nat)) (slot : Slot) : (maxima offers).lookup slot =
      if slot ∈ slots offers then some (peak offers slot) else none := by
  induction offers using List.reverseRecOn with
  | nil => simp [maxima, slots]
  | append_singleton offers offer ih =>
    obtain ⟨owner, cost⟩ := offer
    rw [maxima_append, raise]
    by_cases same : slot = owner
    · subst same
      have listed : slot ∈ slots (offers ++ [(slot, cost)]) := mem_slots.mpr ⟨cost, by simp⟩
      have before : ((maxima offers).lookup slot).getD 0 = peak offers slot := by
        rw [ih]
        split
        · rfl
        · rename_i absent
          refine (Nat.le_zero.mp (peak_le_iff.mpr fun amount member => ?_)).symm
          exact absurd (mem_slots.mpr ⟨amount, member⟩) absent
      have largest : peak (offers ++ [(slot, cost)]) slot = max (peak offers slot) cost := by
        refine le_antisymm ?_ (max_le ?_ ?_)
        · refine peak_le_iff.mpr fun amount member => ?_
          rcases List.mem_append.mp member with old | new
          · exact (le_peak old).trans (le_max_left _ _)
          · have fresh : amount = cost := by simpa using new
            exact fresh ▸ le_max_right _ _
        · exact peak_mono (List.subset_append_left _ _) slot
        · exact le_peak (by simp)
      rw [AList.lookup_insert, if_pos listed, before, largest]
    · have unchanged : peak (offers ++ [(owner, cost)]) slot = peak offers slot := by
        refine le_antisymm (peak_le_iff.mpr fun amount member => ?_)
          (peak_mono (List.subset_append_left _ _) slot)
        rcases List.mem_append.mp member with old | new
        · exact le_peak old
        · have pair : slot = owner ∧ amount = cost := by simpa using new
          exact absurd pair.1 same
      have sameSlots : slot ∈ slots (offers ++ [(owner, cost)]) ↔ slot ∈ slots offers := by
        simp [slots, same]
      rw [AList.lookup_insert_ne same, ih, unchanged]
      simp only [sameSlots]

private theorem sum_values (map : AList fun _ : Slot => Nat) : (map.entries.map Sigma.snd).sum =
      ∑ slot ∈ map.keys.toFinset, (map.lookup slot).getD 0 := by
  rw [List.sum_toFinset _ map.keys_nodup]
  congr 1
  unfold AList.keys List.keys
  rw [List.map_map]
  refine List.map_congr_left fun entry member => ?_
  have found : map.lookup entry.1 = some entry.2 := AList.mem_lookup_iff.mpr member
  simp [found]

theorem sum_maxima (offers : List (Slot × Nat)) :
    ((maxima offers).entries.map Sigma.snd).sum = committed offers := by
  have keys : (maxima offers).keys.toFinset = slots offers := by
    ext slot
    rw [List.mem_toFinset, ← AList.mem_keys, ← AList.lookup_isSome, lookup_maxima]
    split <;> simp_all
  rw [sum_values, keys]
  refine Finset.sum_congr rfl fun slot member => ?_
  rw [lookup_maxima, if_pos member]
  rfl

private theorem checkedSum_none (limit : Nat) (values : List Nat) : values.foldl
        (fun sum value =>
          sum.bind fun sum =>
            if sum + value < limit then some (sum + value) else none)
        none = none := by
  induction values with
  | nil => rfl
  | cons _ _ ih => exact ih

private theorem checkedSum_from (limit : Nat) (values : List Nat) {start : Nat}
    (low : start < limit) :
    values.foldl
        (fun sum value =>
          sum.bind fun sum =>
            if sum + value < limit then some (sum + value) else none)
        (some start) =
      if start + values.sum < limit then some (start + values.sum) else none := by
  induction values generalizing start with
  | nil => simp [low]
  | cons value values ih =>
    rw [List.foldl_cons, Option.bind_some, List.sum_cons, ← Nat.add_assoc]
    by_cases fits : start + value < limit
    · rw [if_pos fits, ih fits]
    · have exceeds : ¬ start + value + values.sum < limit := by omega
      rw [if_neg fits, if_neg exceeds, checkedSum_none]

theorem checkedSum_eq {limit : Nat} (positive : 0 < limit) (values : List Nat) :
    checkedSum limit values =
      if values.sum < limit then some values.sum else none := by
  have folded := checkedSum_from limit values positive
  simpa [checkedSum] using folded

theorem checkedSum_maxima {limit spent : Nat} (positive : 0 < limit) :
    checkedSum limit ((maxima offers).entries.map Sigma.snd) = some spent ↔
      committed offers = spent ∧ spent < limit := by
  rw [checkedSum_eq positive, sum_maxima]
  split
  · rename_i low
    constructor
    · intro same
      cases same
      exact ⟨rfl, low⟩
    · rintro ⟨rfl, _⟩
      rfl
  · rename_i high
    constructor
    · intro absent
      cases absent
    · rintro ⟨rfl, low⟩
      exact absurd low high

section Entries

variable {Entry : Type} {offer : Entry → Option (Slot × Nat)} {entries more : List Entry}

theorem committed_filterMap_congr (same : ∀ entry, entry ∈ more ↔ entry ∈ entries) :
    committed (more.filterMap offer) = committed (entries.filterMap offer) :=
  committed_congr fun _ => by simp only [List.mem_filterMap, same]

theorem committed_filterMap_added {added : Entry}
    (grown : ∀ entry, entry ∈ more ↔ entry ∈ entries ∨ entry = added) :
    committed (more.filterMap offer) =
      committed (entries.filterMap offer ++ (offer added).toList) := by
  refine committed_congr fun offered => ?_
  simp only [List.mem_append, List.mem_filterMap, grown, Option.mem_toList]
  constructor
  · rintro ⟨entry, listed | rfl, makes⟩
    · exact .inl ⟨entry, listed, makes⟩
    · exact .inr makes
  · rintro (⟨entry, listed, makes⟩ | makes)
    · exact ⟨entry, .inl listed, makes⟩
    · exact ⟨added, .inr rfl, makes⟩

end Entries

end SlotMaxima

end Axe

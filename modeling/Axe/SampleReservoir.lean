import Axe.HardenedJournal
import Axe.Saturating

namespace Axe.Benchmark

open Hardened (U64)

/-!
# The reservoir of a benchmark

A benchmark keeps a bounded number of its samples.  The first ones are all kept.  A later one
draws a number below the count of samples so far; if that is a place of the reservoir, the
sample takes this place.  Then every sample is kept equally often, counted over all draws.

The count of samples stops at the largest number of 64 bits.
-/

structure ReservoirState (Sample : Type) where
  seen : U64
  retained : List Sample
  deriving DecidableEq

variable {Sample : Type}

/-- Keep a sample: while there is room, or at a drawn place. -/
def record (capacity : U64) (state : ReservoirState Sample) (candidate : Nat) (sample : Sample) :
    ReservoirState Sample :=
  let seen := saturatingAdd state.seen 1
  let replacement :=
    if seen ≤ capacity then
      some (saturatingSub seen 1).toNat
    else if candidate < capacity.toNat then some candidate else none
  match replacement with
  | none => ⟨seen, state.retained⟩
  | some place =>
    if place = state.retained.length then
      ⟨seen, state.retained ++ [sample]⟩
    else
      ⟨seen, state.retained.set place sample⟩

/-- The reservoir after some samples. -/
def reservoirAfter (capacity : U64) (samples : Nat → Sample) (draws : List Nat) :
    ReservoirState Sample :=
  draws.zipIdx.foldl (fun state draw => record capacity state draw.1 (samples draw.2)) ⟨0, []⟩

def retainedPositions (capacity : U64) (draws : List Nat) : List Nat :=
  (reservoirAfter capacity id draws).retained

def seenAfter (count : Nat) : U64 := saturate 64 count

def drawRange (capacity seen : U64) : Nat :=
  if seen ≤ capacity then 1 else seen.toNat

def drawSequences (capacity : U64) : Nat → List (List Nat)
  | 0 => [[]]
  | count + 1 =>
    (drawSequences capacity count).flatMap fun draws =>
      (List.range (drawRange capacity (seenAfter (count + 1)))).map fun candidate =>
        draws ++ [candidate]

/-!
## Lists whose entries are replaced
-/

variable {place : Nat}

theorem mem_set_iff_of_nodup {entries : List Nat} (distinct : entries.Nodup) {old new : Nat}
    (present : old ∈ entries) (different : old ≠ new) :
    old ∈ entries.set place new ↔ place ≠ entries.idxOf old := by
  have bound := List.idxOf_lt_length_of_mem present
  have isOld : entries[entries.idxOf old]? = some old := by
    rw [List.getElem?_eq_getElem bound, List.getElem_idxOf]
  constructor
  · rintro member rfl
    obtain ⟨index, found⟩ := List.mem_iff_getElem?.mp member
    rw [List.getElem?_set] at found
    by_cases here : entries.idxOf old = index
    · rw [if_pos here, if_pos bound] at found
      exact different (Option.some.inj found).symm
    · rw [if_neg here] at found
      exact here ((List.getElem?_inj bound distinct).mp (isOld.trans found.symm))
  · intro elsewhere
    refine List.mem_iff_getElem?.mpr ⟨entries.idxOf old, ?_⟩
    rw [List.getElem?_set_ne elsewhere, isOld]

theorem mem_set_new_iff {entries : List Nat} {new : Nat} (absent : new ∉ entries) :
    new ∈ entries.set place new ↔ place < entries.length := by
  constructor
  · intro member
    by_contra outside
    rw [List.set_eq_of_length_le (Nat.not_lt.mp outside)] at member
    exact absent member
  · intro inside
    exact List.mem_iff_getElem?.mpr ⟨place, List.getElem?_set_self inside⟩

theorem countP_ne_range {bound : Nat} (inside : place < bound) :
    (List.range bound).countP (fun candidate => decide (candidate ≠ place)) = bound - 1 := by
  have once : (List.range bound).countP (fun candidate => decide (candidate = place)) = 1 := by
    have count := List.count_eq_one_of_mem List.nodup_range (List.mem_range.mpr inside)
    rw [← count, List.count]
    exact List.countP_congr fun _ _ => by simp
  have total := List.length_eq_countP_add_countP (fun candidate => decide (candidate = place))
    (l := List.range bound)
  rw [List.length_range, once] at total
  have same : (List.range bound).countP (fun candidate => decide (candidate ≠ place)) =
      (List.range bound).countP (fun candidate => decide ¬ (decide (candidate = place)) = true) :=
    List.countP_congr fun _ _ => by simp
  omega

theorem countP_lt_range {limit bound : Nat} (within : limit ≤ bound) :
    (List.range bound).countP (fun candidate => decide (candidate < limit)) = limit := by
  induction bound with
  | zero => simp_all
  | succ bound ih =>
    rw [List.range_succ, List.countP_append]
    rcases Nat.lt_or_eq_of_le within with less | rfl
    · rw [ih (Nat.le_of_lt_succ less)]
      simp [Nat.not_lt.mpr (Nat.le_of_lt_succ less)]
    · have all : (List.range bound).countP (fun candidate => decide (candidate < bound + 1)) =
          (List.range bound).length :=
        List.countP_eq_length.mpr fun candidate member => by
          simpa using Nat.lt_succ_of_lt (List.mem_range.mp member)
      rw [all]
      simp

/-!
## One sample
-/

theorem saturatingAdd_seenAfter (count : Nat) :
    saturatingAdd (seenAfter count) 1 = seenAfter (count + 1) := by
  apply BitVec.eq_of_toNat_eq
  rw [saturatingAdd, toNat_saturate, seenAfter, seenAfter, toNat_saturate, toNat_saturate]
  change min (min count (2 ^ 64 - 1) + 1) (2 ^ 64 - 1) = _
  omega

variable {capacity : U64} {samples : Nat → Sample} {draws : List Nat} {candidate : Nat}

theorem reservoirAfter_append : reservoirAfter capacity samples (draws ++ [candidate]) =
      record capacity (reservoirAfter capacity samples draws) candidate (samples draws.length) := by
  simp [reservoirAfter, List.zipIdx_append]

theorem record_seen (state : ReservoirState Sample) (sample : Sample) :
    (record capacity state candidate sample).seen = saturatingAdd state.seen 1 := by
  simp only [record]
  split
  · rfl
  · split
    · rfl
    · rfl

theorem reservoirAfter_seen (capacity : U64) (samples : Nat → Sample) (draws : List Nat) :
    (reservoirAfter capacity samples draws).seen = seenAfter draws.length := by
  induction draws using List.reverseRecOn with
  | nil => rfl
  | append_singleton draws candidate ih =>
    rw [reservoirAfter_append, record_seen, ih, saturatingAdd_seenAfter,
      List.length_append, List.length_singleton]

theorem retained_of_room (few : draws.length < capacity.toNat)
    (filled : (reservoirAfter capacity samples draws).retained.length = draws.length) :
    (reservoirAfter capacity samples (draws ++ [candidate])).retained =
      (reservoirAfter capacity samples draws).retained ++ [samples draws.length] := by
  have bound := capacity.isLt
  have isSeen : (seenAfter (draws.length + 1)).toNat = draws.length + 1 := by
    rw [seenAfter, toNat_saturate]
    omega
  have room : seenAfter (draws.length + 1) ≤ capacity := by
    change (seenAfter _).toNat ≤ _
    omega
  have place : (saturatingSub (seenAfter (draws.length + 1)) 1).toNat = draws.length := by
    rw [toNat_saturatingSub, isSeen]
    rfl
  rw [reservoirAfter_append, record, reservoirAfter_seen, saturatingAdd_seenAfter]
  simp only [if_pos room, place, filled, if_true]

/-- A sample that finds no room takes the place that it drew, if there is such a place. -/
theorem retained_of_full
    (counted : capacity < seenAfter (draws.length + 1))
    (filled : (reservoirAfter capacity samples draws).retained.length = capacity.toNat) :
    (reservoirAfter capacity samples (draws ++ [candidate])).retained =
      (reservoirAfter capacity samples draws).retained.set candidate (samples draws.length) := by
  have full : ¬ seenAfter (draws.length + 1) ≤ capacity := by simpa [BitVec.not_le] using counted
  rw [reservoirAfter_append, record, reservoirAfter_seen, saturatingAdd_seenAfter]
  simp only [if_neg full]
  by_cases inside : candidate < capacity.toNat
  · simp [if_pos inside, filled, Nat.ne_of_lt inside]
  · rw [if_neg inside, List.set_eq_of_length_le (by omega)]

/-!
## All samples
-/

/-- What is kept after some samples: distinct ones of them, as many as there is room for. -/
structure Kept (capacity : U64) (draws : List Nat) : Prop where
  distinct : (retainedPositions capacity draws).Nodup
  length : (retainedPositions capacity draws).length = min draws.length capacity.toNat
  recorded : ∀ position ∈ retainedPositions capacity draws, position < draws.length
  first : draws.length ≤ capacity.toNat → retainedPositions capacity draws = List.range draws.length

variable {count : Nat}

theorem lt_seenAfter (full : capacity.toNat ≤ count) (fits : count + 1 < 2 ^ 64) :
    capacity < seenAfter (count + 1) := by
  change capacity.toNat < (seenAfter _).toNat
  rw [seenAfter, toNat_saturate]
  omega

theorem kept_of_counted (draws : List Nat) (fits : draws.length < 2 ^ 64) :
    Kept capacity draws := by
  induction draws using List.reverseRecOn with
  | nil => exact ⟨List.nodup_nil, by simp [retainedPositions, reservoirAfter], by
      simp [retainedPositions, reservoirAfter], fun _ => rfl⟩
  | append_singleton draws candidate ih =>
    rw [List.length_append, List.length_singleton] at fits
    have kept := ih (by omega)
    have absent : draws.length ∉ retainedPositions capacity draws :=
      fun member => Nat.lt_irrefl _ (kept.recorded _ member)
    by_cases few : draws.length < capacity.toNat
    · have filled : (retainedPositions capacity draws).length = draws.length := by
        rw [kept.length]
        omega
      have isNow : retainedPositions capacity (draws ++ [candidate]) =
          List.range (draws.length + 1) := by
        rw [List.range_succ, ← kept.first (Nat.le_of_lt few)]
        exact retained_of_room few filled
      have length : (draws ++ [candidate]).length = draws.length + 1 := by simp
      rw [← length] at isNow
      refine ⟨?_, ?_, ?_, fun _ => isNow⟩
      · rw [isNow]
        exact List.nodup_range
      · rw [isNow, List.length_range, length]
        omega
      · intro position member
        rw [isNow] at member
        exact List.mem_range.mp member
    · have filled : (retainedPositions capacity draws).length = capacity.toNat := by
        rw [kept.length]
        omega
      have isNow : retainedPositions capacity (draws ++ [candidate]) =
          (retainedPositions capacity draws).set candidate draws.length :=
        retained_of_full (lt_seenAfter (Nat.not_lt.mp few) fits) filled
      have length : (draws ++ [candidate]).length = draws.length + 1 := by simp
      refine ⟨?_, ?_, ?_, fun less => ?_⟩
      · rw [isNow]
        exact kept.distinct.set absent
      · rw [isNow, List.length_set, filled, length]
        omega
      · intro position member
        rw [isNow] at member
        rw [length]
        rcases List.mem_or_eq_of_mem_set member with old | rfl
        · exact Nat.lt_succ_of_lt (kept.recorded position old)
        · exact Nat.lt_succ_self _
      · omega

theorem retained_eq_map (capacity : U64) (samples : Nat → Sample) (draws : List Nat) :
    (reservoirAfter capacity samples draws).retained =
      (retainedPositions capacity draws).map samples := by
  induction draws using List.reverseRecOn with
  | nil => rfl
  | append_singleton draws candidate ih =>
    have sameLength := congrArg List.length ih
    rw [List.length_map] at sameLength
    rw [retainedPositions, reservoirAfter_append, reservoirAfter_append, record, record,
      reservoirAfter_seen, reservoirAfter_seen, sameLength, ih]
    split
    · rfl
    · simp only [retainedPositions]
      split
      · rename_i appended
        simp [appended]
      · rename_i replaced
        simp [replaced, List.map_set]

theorem length_of_mem_drawSequences (member : draws ∈ drawSequences capacity count) :
    draws.length = count := by
  induction count generalizing draws with
  | zero =>
    cases List.mem_singleton.mp member
    rfl
  | succ count ih =>
    obtain ⟨before, isBefore, drawn⟩ := List.mem_flatMap.mp member
    obtain ⟨candidate, _, rfl⟩ := List.mem_map.mp drawn
    simp [ih isBefore]

/-- In how many sequences of draws a sample is kept. -/
def timesKept (capacity : U64) (count position : Nat) : Nat :=
  (drawSequences capacity count).countP fun draws =>
    decide (position ∈ retainedPositions capacity draws)

theorem timesKept_succ {count position : Nat} {times : Nat} {before : List Nat → Bool}
    (last : ∀ draws ∈ drawSequences capacity count,
      (List.range (drawRange capacity (seenAfter (count + 1)))).countP (fun candidate =>
        decide (position ∈ retainedPositions capacity (draws ++ [candidate]))) =
          if before draws then times else 0) :
    timesKept capacity (count + 1) position =
      (drawSequences capacity count).countP before * times := by
  unfold timesKept
  rw [drawSequences, List.countP_flatMap]
  generalize drawSequences capacity count = sequences at last
  induction sequences with
  | nil => simp
  | cons draws rest ih =>
    have here := last draws List.mem_cons_self
    have later := ih fun draws member => last draws (List.mem_cons_of_mem _ member)
    simp only [List.map_cons, List.sum_cons, Function.comp, List.countP_map] at later ⊢
    rw [later, List.countP_cons]
    simp only [Function.comp_def] at here ⊢
    rw [here]
    cases before draws with
    | true => simp; ring
    | false => simp

theorem length_drawSequences_succ (capacity : U64) (count : Nat) :
    (drawSequences capacity (count + 1)).length =
      (drawSequences capacity count).length * drawRange capacity (seenAfter (count + 1)) := by
  simp [drawSequences, List.length_flatMap, List.map_const']

section Full

variable {count : Nat}

theorem drawRange_seenAfter (full : capacity.toNat ≤ count) (fits : count + 1 < 2 ^ 64) :
    drawRange capacity (seenAfter (count + 1)) = count + 1 := by
  have counted := lt_seenAfter full fits
  rw [drawRange, if_neg (by simpa [BitVec.not_le] using counted), seenAfter, toNat_saturate]
  omega

/-- After so many draws the reservoir is full, and the next candidate is put into its place. -/
theorem retained_of_drawn
    (full : capacity.toNat ≤ count)
    (fits : count < 2 ^ 64)
    (counted : capacity < seenAfter (count + 1))
    (member : draws ∈ drawSequences capacity count) :
    (retainedPositions capacity draws).length = capacity.toNat ∧
      ∀ candidate, retainedPositions capacity (draws ++ [candidate]) =
        (retainedPositions capacity draws).set candidate count := by
  have length := length_of_mem_drawSequences member
  have kept := @kept_of_counted capacity draws (by omega)
  have filled : (retainedPositions capacity draws).length = capacity.toNat := by
    rw [kept.length]
    omega
  refine ⟨filled, fun candidate => ?_⟩
  have now := @retained_of_full _ capacity id draws candidate (length ▸ counted) filled
  rw [length] at now
  exact now

theorem timesKept_newest (full : capacity.toNat ≤ count) (fits : count < 2 ^ 64)
    (counted : capacity < seenAfter (count + 1)) :
    timesKept capacity (count + 1) count =
      (drawSequences capacity count).length * capacity.toNat := by
  have range : drawRange capacity (seenAfter (count + 1)) = (seenAfter (count + 1)).toNat :=
    if_neg (by simpa [BitVec.not_le] using counted)
  rw [@timesKept_succ capacity count count capacity.toNat (fun _ => true)]
  · simp
  · intro draws member
    have length := length_of_mem_drawSequences member
    have kept := @kept_of_counted capacity draws (by omega)
    have filled := retained_of_drawn full fits counted member
    have absent : count ∉ retainedPositions capacity draws := fun present =>
      Nat.lt_irrefl _ (length ▸ kept.recorded _ present)
    rw [if_pos rfl, range, ← @countP_lt_range capacity.toNat _ (Nat.le_of_lt counted)]
    apply List.countP_congr
    intro candidate _
    rw [filled.2, decide_eq_true_iff, decide_eq_true_iff, mem_set_new_iff absent, filled.1]

theorem timesKept_older {position : Nat} (full : capacity.toNat ≤ count)
    (fits : count + 1 < 2 ^ 64) (older : position < count) :
    timesKept capacity (count + 1) position = timesKept capacity count position * count := by
  apply timesKept_succ
  intro draws member
  have length := length_of_mem_drawSequences member
  have kept := @kept_of_counted capacity draws (by omega)
  rcases retained_of_drawn full (by omega) (lt_seenAfter full fits) member with ⟨filled, isNow⟩
  rw [drawRange_seenAfter full fits]
  by_cases present : position ∈ retainedPositions capacity draws
  · rw [if_pos (by simpa using present)]
    have place : (retainedPositions capacity draws).idxOf position < count + 1 := by
      have inside := List.idxOf_lt_length_of_mem present
      omega
    apply Eq.trans _ (countP_ne_range place)
    apply List.countP_congr
    intro candidate _
    rw [isNow, decide_eq_true_iff, decide_eq_true_iff,
      mem_set_iff_of_nodup kept.distinct present (Nat.ne_of_lt older)]
  · rw [if_neg (by simpa using present), List.countP_eq_zero]
    intro candidate _
    rw [isNow, decide_eq_true_iff]
    intro member
    rcases List.mem_or_eq_of_mem_set member with old | new
    · exact present old
    · exact absurd new (Nat.ne_of_lt older)

end Full

/-- While there is room everything is kept. -/
theorem timesKept_of_room
    {position : Nat}
    (fits : count < 2 ^ 64)
    (recorded : position < count)
    (few : count ≤ capacity.toNat) :
    timesKept capacity count position = (drawSequences capacity count).length := by
  apply List.countP_eq_length.mpr
  intro draws member
  have length := length_of_mem_drawSequences member
  have kept := @kept_of_counted capacity draws (by omega)
  rw [decide_eq_true_iff, kept.first (by omega), List.mem_range]
  omega

theorem timesKept_mul (capacity : U64) {position : Nat} (fits : count < 2 ^ 64)
    (recorded : position < count) :
    timesKept capacity count position * count =
      min count capacity.toNat * (drawSequences capacity count).length := by
  by_cases few : count ≤ capacity.toNat
  · rw [timesKept_of_room fits recorded few, Nat.min_eq_left few, Nat.mul_comm]
  · induction count with
    | zero => omega
    | succ count ih =>
      have full : capacity.toNat ≤ count := Nat.le_of_lt_succ (Nat.not_le.mp few)
      have counted := lt_seenAfter full fits
      rw [length_drawSequences_succ, drawRange_seenAfter full fits, Nat.min_eq_right (Nat.le_succ_of_le full)]
      rcases Nat.lt_or_eq_of_le (Nat.le_of_lt_succ recorded) with older | rfl
      · have before : timesKept capacity count position * count =
            capacity.toNat * (drawSequences capacity count).length := by
          rcases Nat.lt_or_eq_of_le full with less | isFull
          · rw [ih (by omega) older (by omega), Nat.min_eq_right full]
          · -- The reservoir has just been filled, and holds everything.
            rw [timesKept_of_room (by omega) older isFull.ge, isFull, Nat.mul_comm]
        rw [timesKept_older full fits older, before]
        ring
      · rw [timesKept_newest full (by omega) counted]
        ring

/-- For fewer than 2^64 samples the reservoir holds as many as there is room for, at distinct
positions, and each position is kept in the same share of all sequences of draws. -/
theorem reservoir_sampling_is_uniform
    (capacity : U64)
    (count : Nat)
    (fits : count < 2 ^ 64) :
    (∀ (Sample : Type) (samples : Nat → Sample), ∀ draws ∈ drawSequences capacity count,
      (reservoirAfter capacity samples draws).retained =
          (retainedPositions capacity draws).map samples ∧
        (retainedPositions capacity draws).Nodup ∧
        (retainedPositions capacity draws).length = min count capacity.toNat ∧
        ∀ position ∈ retainedPositions capacity draws, position < count) ∧
    (∀ position < count, timesKept capacity count position * count =
        min count capacity.toNat * (drawSequences capacity count).length) := by
  refine ⟨?_, fun position => timesKept_mul capacity fits⟩
  intro Sample samples draws member
  have length := length_of_mem_drawSequences member
  have kept := @kept_of_counted capacity draws (by omega)
  have size := kept.length
  have recorded := kept.recorded
  rw [length] at size recorded
  exact ⟨retained_eq_map capacity samples draws, kept.distinct, size, recorded⟩

/-- Two of three samples are kept, each in two thirds of the sequences. -/
theorem reservoir_of_two_is_uniform : (3 < 2 ^ 64) ∧
      timesKept 2 3 0 * 3 = min 3 (2 : U64).toNat * (drawSequences 2 3).length :=
  ⟨by decide, (reservoir_sampling_is_uniform 2 3 (by decide)).2 0 (by decide)⟩

theorem length_drawSequences_pos (capacity : U64) (count : Nat) :
    0 < (drawSequences capacity count).length := by
  induction count with
  | zero => exact Nat.one_pos
  | succ count ih =>
    rw [length_drawSequences_succ]
    apply Nat.mul_pos ih
    rw [drawRange]
    split
    · exact Nat.one_pos
    · rw [seenAfter, toNat_saturate]
      omega

theorem timesKept_newest_ne {count : Nat} (full : capacity.toNat ≤ count) (fits : count < 2 ^ 64)
    (some : 0 < capacity.toNat) (counted : capacity < seenAfter (count + 1))
    (stopped : (seenAfter (count + 1)).toNat < count + 1) :
    timesKept capacity (count + 1) count * (count + 1) ≠
      min (count + 1) capacity.toNat * (drawSequences capacity (count + 1)).length := by
  have range : drawRange capacity (seenAfter (count + 1)) = (seenAfter (count + 1)).toNat :=
    if_neg (by simpa [BitVec.not_le] using counted)
  rw [timesKept_newest full fits counted, length_drawSequences_succ, range,
    Nat.min_eq_right (Nat.le_succ_of_le full)]
  apply Nat.ne_of_gt
  calc capacity.toNat * ((drawSequences capacity count).length * (seenAfter (count + 1)).toNat)
      = (drawSequences capacity count).length * capacity.toNat * (seenAfter (count + 1)).toNat := by
        ring
    _ < (drawSequences capacity count).length * capacity.toNat * (count + 1) :=
        Nat.mul_lt_mul_of_pos_left stopped
          (Nat.mul_pos (length_drawSequences_pos capacity count) some)

/-- Where the count of samples has stopped, the range of the draws is one too small, and the
newest sample is kept too often. -/
theorem reservoir_is_biased_after_saturation : ¬ ∀ position < 2 ^ 64,
      timesKept 1 (2 ^ 64) position * 2 ^ 64 =
        min (2 ^ 64) (1 : U64).toNat * (drawSequences 1 (2 ^ 64)).length := by
  intro uniform
  have next : 2 ^ 64 - 1 + 1 = 2 ^ 64 := by decide
  have biased := @timesKept_newest_ne 1 (2 ^ 64 - 1) (by decide) (by decide) (by decide)
    (by decide) (by decide)
  rw [next] at biased
  exact biased (uniform (2 ^ 64 - 1) (by decide))

end Axe.Benchmark

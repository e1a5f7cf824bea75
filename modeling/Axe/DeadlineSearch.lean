import Mathlib.Order.Bounds.Basic
import Axe.GovernanceRelay
import Axe.ProgramOracle

namespace Axe.Propose

open Hardened

/-!
# Searching for the block of a deadline

Block times do not decrease along a chain.  Both searches go back in steps that double
until they pass the deadline, and then halve the window that is left.  The search on
the edge chain counts in whole seconds, as block headers do; the one on the hub does
not look at the first height, which is why the heights that are scanned start one below
its result.
-/

/-- The times of the blocks, which never decrease; the first block has number zero. -/
structure EdgeChain where
  times : List Nat
  inhabited : times ≠ []
  ordered : times.Pairwise (· ≤ ·)

/-- The hub at one moment; its first block has height one, and heights are signed. -/
structure HubChain where
  times : List DateTime
  ordered : times.Pairwise (· ≤ ·)
  bounded : times.length < 2 ^ 63

/-- The number of the newest block. -/
def EdgeChain.latest (chain : EdgeChain) : Nat := chain.times.length - 1

/-- The newest height; heights start at one. -/
def HubChain.latest (chain : HubChain) : Nat := chain.times.length

/-- The time of a block in seconds. -/
def EdgeChain.time (chain : EdgeChain) (number : Nat) : Nat := chain.times.getD number 0

/-- The time of a height, with fractions. -/
def HubChain.time (chain : HubChain) (height : Nat) : DateTime := chain.times.getD (height - 1) 0

/-- A node that answers nothing. -/
def unavailable : Oracle relayInterface
  | .edgeBlockNumber => .error "unavailable"
  | .edgeBlock _ => .error "unavailable"
  | .edgeLogs _ _ _ _ => .error "unavailable"
  | .commandExecuted _ _ => .error "unavailable"
  | .contractCallApproved _ _ _ _ => .error "unavailable"
  | .operatorProposalApproved _ _ _ => .error "unavailable"
  | .proposalEta _ _ _ => .error "unavailable"
  | .connect => .error "unavailable"
  | .ensureFunded _ => .error "unavailable"
  | .approveWrite _ _ _ => .error "unavailable"
  | .asgExecute _ _ _ => .error "unavailable"
  | .hubBlockTime _ => .error "unavailable"
  | .now => (0 : DateTime)
  | .polls => (0 : Nat)
  | .sleep => ()

/-- A node that knows the blocks of the chain. -/
def EdgeChain.node (chain : EdgeChain) : Oracle relayInterface
  | .edgeBlockNumber => .ok chain.latest
  | .edgeBlock number => .ok chain.times[number]?
  | other => unavailable other

/-- A node that knows the heights of the hub. -/
def HubChain.node (chain : HubChain) : Oracle relayInterface
  | .hubBlockTime height => .ok (if 0 < height then chain.times[height - 1]? else none)
  | other => unavailable other

/-!
## Halving a window
-/

section Bisection

variable {oracle : Oracle relayInterface} {isBefore : Nat → Relay Bool}
variable {probe : Nat → relayInterface.Call} {before : Nat → Prop} [DecidablePred before]

/-- What halving a window finds, when its probes tell which numbers are before. -/
structure Bisects (oracle : Oracle relayInterface) (isBefore : Nat → Relay Bool)
    (probe : Nat → relayInterface.Call) (before : Nat → Prop) (lower upper : Nat)
    (calls : List relayInterface.Call) (found : Nat) : Prop where
  evaluates : (bisect isBefore lower upper).evaluate oracle = (calls, .ok found)
  probes : ∀ call ∈ calls, ∃ number, lower < number ∧ number < upper ∧ call = probe number
  above : lower < found
  below : found ≤ upper
  reached : found < upper → ¬ before found
  least : lower + 1 < found → before (found - 1)

theorem bisect_step {lower upper : Nat} (wide : lower + 1 < upper) : bisect isBefore lower upper =
      (isBefore (lower + (upper - lower) / 2)).bind fun early =>
        if early then bisect isBefore (lower + (upper - lower) / 2) upper
        else bisect isBefore lower (lower + (upper - lower) / 2) := by
  rw [bisect, if_pos wide]
  rfl

theorem bisect_done {lower upper : Nat} (narrow : ¬ lower + 1 < upper) :
    bisect isBefore lower upper = .done upper := by
  rw [bisect, if_neg narrow]
  rfl

theorem bisect_evaluates {lower upper : Nat}
    (asks : ∀ number, lower < number → number < upper →
        (isBefore number).evaluate oracle = ([probe number], .ok (decide (before number))))
    (window : lower < upper) :
    ∃ calls found, Bisects oracle isBefore probe before lower upper calls found := by
  induction size : upper - lower using Nat.strong_induction_on generalizing lower upper with
  | _ size ih =>
    by_cases wide : lower + 1 < upper
    · generalize middle : lower + (upper - lower) / 2 = mid
      have aboveLower : lower < mid := by omega
      have belowUpper : mid < upper := by omega
      have asked := asks mid aboveLower belowUpper
      have step := @bisect_step isBefore lower upper wide
      rw [middle] at step
      by_cases early : before mid
      · rcases ih (upper - mid) (by omega)
            (fun number above below => asks number (aboveLower.trans above) below)
            belowUpper rfl with ⟨calls, found, rest⟩
        refine ⟨probe mid :: calls, found, ?_, ?_, aboveLower.trans rest.above, rest.below,
          rest.reached, ?_⟩
        · rw [step]
          apply Program.evaluate_bind asked
          simp only [early, decide_true, if_true]
          exact rest.evaluates
        · intro call member
          rcases List.mem_cons.mp member with rfl | later
          · exact ⟨mid, aboveLower, belowUpper, rfl⟩
          · rcases rest.probes call later with ⟨number, above, below, same⟩
            exact ⟨number, aboveLower.trans above, below, same⟩
        · intro _
          by_cases next : mid + 1 < found
          · exact rest.least next
          · have same : found - 1 = mid := by
              have above := rest.above
              omega
            rw [same]
            exact early
      · rcases ih (mid - lower) (by omega)
            (fun number above below => asks number above (below.trans belowUpper))
            aboveLower rfl with ⟨calls, found, rest⟩
        refine ⟨probe mid :: calls, found, ?_, ?_, rest.above,
          rest.below.trans belowUpper.le, ?_, rest.least⟩
        · rw [step]
          apply Program.evaluate_bind asked
          simp only [early, decide_false, Bool.false_eq_true, if_false]
          exact rest.evaluates
        · intro call member
          rcases List.mem_cons.mp member with rfl | later
          · exact ⟨mid, aboveLower, belowUpper, rfl⟩
          · rcases rest.probes call later with ⟨number, above, below, same⟩
            exact ⟨number, above, below.trans belowUpper, same⟩
        · intro _
          rcases rest.below.lt_or_eq with inside | ends
          · exact rest.reached inside
          · rw [ends]
            exact early
    · have same : upper = lower + 1 := by omega
      refine ⟨[], upper, ?_, by simp, window, le_rfl, fun never => absurd never (lt_irrefl _), ?_⟩
      · rw [bisect_done wide]
        rfl
      · intro never
        omega

end Bisection

theorem checked_evaluates {Value : Type} {oracle : Oracle relayInterface}
    {request : Relay (Except String Value)} {calls : List relayInterface.Call} {value : Value}
    (asked : request.evaluate oracle = (calls, .ok (.ok value))) :
    (checked request).evaluate oracle = (calls, .ok value) := by
  have ended : (Program.check (.ok value) : Relay Value).evaluate oracle = ([], .ok value) := rfl
  have whole := Program.evaluate_bind asked ended
  rw [List.append_nil] at whole
  exact whole

/-!
## The edge chain
-/

section Edge

variable {chain : EdgeChain}

theorem EdgeChain.length_pos (chain : EdgeChain) : 0 < chain.times.length :=
  List.length_pos_of_ne_nil chain.inhabited

theorem EdgeChain.time_mono {first second : Nat} (ordered : first ≤ second)
    (exists_ : second ≤ chain.latest) :
    chain.time first ≤ chain.time second := by
  have long := chain.length_pos
  rw [EdgeChain.latest] at exists_
  have secondListed : second < chain.times.length := by omega
  have firstListed : first < chain.times.length := by omega
  rcases ordered.lt_or_eq with earlier | rfl
  · have sorted := List.pairwise_iff_getElem.mp chain.ordered first second firstListed
      secondListed earlier
    simpa [EdgeChain.time, firstListed, secondListed] using sorted
  · exact le_rfl

theorem timestamp_evaluates {number : Nat} (exists_ : number ≤ chain.latest) :
    (timestamp number).evaluate chain.node =
      ([Call.edgeBlock number], .ok (chain.time number)) := by
  have long := chain.length_pos
  rw [EdgeChain.latest] at exists_
  have listed : number < chain.times.length := by omega
  have answer : chain.times[number]? = some (chain.time number) := by simp [EdgeChain.time, listed]
  have answered : chain.node (.edgeBlock number) = Except.ok (some (chain.time number)) :=
    congrArg Except.ok answer
  have read : (checked (ask (.edgeBlock number))).evaluate chain.node =
      ([Call.edgeBlock number], .ok (some (chain.time number))) :=
    checked_evaluates (congrArg (fun outcome => ([Call.edgeBlock number], Except.ok outcome)) answered)
  exact Program.evaluate_bind read rfl

variable {want : Nat}

theorem gallopBlocks_evaluates {upper distance : Nat} (positive : 0 < distance)
    (exists_ : upper ≤ chain.latest) (late : want ≤ chain.time upper) :
    ∃ calls lower found, (gallopBlocks want upper distance positive).evaluate chain.node =
          (calls, .ok (lower, found)) ∧
        (∀ call ∈ calls, ∃ number ≤ chain.latest, call = .edgeBlock number) ∧
        found ≤ chain.latest ∧ want ≤ chain.time found ∧
        (lower = 0 ∧ found = 0 ∨ lower < found ∧ chain.time lower < want) := by
  induction upper using Nat.strong_induction_on generalizing distance with
  | _ upper ih =>
    rw [gallopBlocks]
    by_cases more : 0 < upper
    · have smaller : upper - distance < upper := by omega
      have listed := smaller.le.trans exists_
      have asked := timestamp_evaluates listed
      rw [if_pos more]
      by_cases early : chain.time (upper - distance) < want
      · refine ⟨[Call.edgeBlock (upper - distance)], upper - distance, upper, ?_, ?_, exists_,
          late, .inr ⟨smaller, early⟩⟩
        · apply Program.evaluate_bind asked
          rw [if_pos early]
          rfl
        · intro call member
          exact ⟨_, listed, List.mem_singleton.mp member⟩
      · rcases ih (upper - distance) smaller (doubled_pos positive)
            listed (not_lt.mp early) with
          ⟨calls, lower, found, evaluates, probes, rest⟩
        refine ⟨Call.edgeBlock (upper - distance) :: calls, lower, found, ?_, ?_, rest⟩
        · apply Program.evaluate_bind asked
          rw [if_neg early]
          exact evaluates
        · intro call member
          rcases List.mem_cons.mp member with rfl | later
          · exact ⟨_, listed, rfl⟩
          · exact probes call later
    · have zero : upper = 0 := by omega
      subst zero
      rw [if_neg more]
      exact ⟨[], 0, 0, rfl, by simp, exists_, late, .inl ⟨rfl, rfl⟩⟩

/-- The first block at or after a whole second, or the latest block if there is none. -/
structure EdgeChain.FirstAt (chain : EdgeChain) (want found : Nat) : Prop where
  least : (∃ number ≤ chain.latest, want ≤ chain.time number) →
      IsLeast { number | number ≤ chain.latest ∧ want ≤ chain.time number } found
  latest : (∀ number ≤ chain.latest, chain.time number < want) → found = chain.latest

theorem EdgeChain.firstAt_of_least {found : Nat} (exists_ : found ≤ chain.latest)
    (late : want ≤ chain.time found) (early : 0 < found → chain.time (found - 1) < want) :
    chain.FirstAt want found := by
  constructor
  · intro _
    refine ⟨⟨exists_, late⟩, ?_⟩
    rintro number ⟨listed, reaches⟩
    by_contra smaller
    have previous : chain.time (found - 1) < want := early (by omega)
    have sorted : chain.time number ≤ chain.time (found - 1) :=
      chain.time_mono (by omega) (by omega)
    omega
  · intro none
    exact absurd late (not_le.mpr (none found exists_))

theorem bisectBlocks_evaluates {lower upper : Nat} (exists_ : upper ≤ chain.latest)
    (late : want ≤ chain.time upper)
    (around : lower = 0 ∧ upper = 0 ∨ lower < upper ∧ chain.time lower < want) :
    ∃ calls found,
      (bisect (fun mid => do return (← timestamp mid) < want) lower upper).evaluate chain.node =
          (calls, .ok found) ∧
        (∀ call ∈ calls, ∃ number ≤ chain.latest, call = Call.edgeBlock number) ∧
        chain.FirstAt want found := by
  rcases around with ⟨rfl, rfl⟩ | ⟨window, before⟩
  · refine ⟨[], 0, ?_, by simp, chain.firstAt_of_least exists_ late (fun never => absurd never ?_)⟩
    · rw [bisect_done (by omega)]
      rfl
    · exact lt_irrefl 0
  · have asks : ∀ number, lower < number → number < upper →
        (do return (← timestamp number) < want : Relay Bool).evaluate chain.node =
          ([Call.edgeBlock number], .ok (decide (chain.time number < want))) := by
      intro number _ below
      exact Program.evaluate_bind (timestamp_evaluates (below.le.trans exists_)) rfl
    rcases @bisect_evaluates _ _ Call.edgeBlock _ _ lower upper asks window with ⟨calls, found, bisects⟩
    refine ⟨calls, found, bisects.evaluates, ?_, ?_⟩
    · intro call member
      rcases bisects.probes call member with ⟨number, _, below, same⟩
      exact ⟨number, below.le.trans exists_, same⟩
    · apply chain.firstAt_of_least (bisects.below.trans exists_)
      · rcases bisects.below.lt_or_eq with inside | ends
        · exact not_lt.mp (bisects.reached inside)
        · rw [ends]
          exact late
      · intro _
        by_cases next : lower + 1 < found
        · exact bisects.least next
        · have above := bisects.above
          have same : found - 1 = lower := by omega
          rw [same]
          exact before

theorem firstBlockAt_evaluates (chain : EdgeChain) (deadline : DateTime) : ∃ calls found,
      (firstBlockAt deadline).evaluate chain.node = (Call.edgeBlockNumber :: calls, .ok found) ∧
        (∀ call ∈ calls, ∃ number ≤ chain.latest, call = Call.edgeBlock number) ∧
        chain.FirstAt (max deadline.timestamp 0).toNat found := by
  rw [firstBlockAt]
  generalize (max deadline.timestamp 0).toNat = want
  have latestRead : (checked (ask .edgeBlockNumber)).evaluate chain.node =
      ([Call.edgeBlockNumber], .ok chain.latest) :=
    checked_evaluates rfl
  have lastRead := @timestamp_evaluates chain chain.latest le_rfl
  by_cases early : chain.time chain.latest < want
  · refine ⟨[Call.edgeBlock chain.latest], chain.latest, ?_, ?_, ?_, fun _ => rfl⟩
    · apply Program.evaluate_bind latestRead
      apply Program.evaluate_bind lastRead
      rw [if_pos early]
      rfl
    · intro call member
      exact ⟨_, le_rfl, List.mem_singleton.mp member⟩
    · rintro ⟨number, listed, late⟩
      exact absurd (late.trans (chain.time_mono listed le_rfl)) (not_le.mpr early)
  · rcases gallopBlocks_evaluates (by decide : 0 < 64) le_rfl (not_lt.mp early) with
      ⟨probed, lower, upper, gallops, probes, listed, late, around⟩
    have halves := bisectBlocks_evaluates listed late around
    rcases halves with ⟨halved, found, bisects, halvedProbes, first⟩
    refine ⟨Call.edgeBlock chain.latest :: (probed ++ halved), found, ?_, ?_, first⟩
    · apply Program.evaluate_bind latestRead
      apply Program.evaluate_bind lastRead
      rw [if_neg early]
      exact Program.evaluate_bind gallops bisects
    · intro call member
      rcases List.mem_cons.mp member with rfl | later
      · exact ⟨_, le_rfl, rfl⟩
      · exact (List.mem_append.mp later).elim (probes call) (halvedProbes call)

end Edge

/-!
## The hub
-/

section Hub

variable {chain : HubChain}

theorem HubChain.time_mono {first second : Nat} (positive : 1 ≤ first) (ordered : first ≤ second)
    (exists_ : second ≤ chain.latest) :
    chain.time first ≤ chain.time second := by
  rw [HubChain.latest] at exists_
  have secondListed : second - 1 < chain.times.length := by omega
  have firstListed : first - 1 < chain.times.length := by omega
  rcases ordered.lt_or_eq with earlier | rfl
  · have sorted := List.pairwise_iff_getElem.mp chain.ordered (first - 1) (second - 1) firstListed
      secondListed (by omega)
    simpa [HubChain.time, firstListed, secondListed] using sorted
  · exact le_rfl

theorem blockTime_evaluates {height : Nat} (positive : 1 ≤ height)
    (exists_ : height ≤ chain.latest) :
    (blockTime height).evaluate chain.node =
      ([Call.hubBlockTime height], .ok (chain.time height)) := by
  rw [HubChain.latest] at exists_
  have listed : height - 1 < chain.times.length := by omega
  have answer : (if 0 < height then chain.times[height - 1]? else none) =
      some (chain.time height) := by
    simp [HubChain.time, listed, Nat.lt_of_succ_le positive]
  have answered : chain.node (.hubBlockTime height) = Except.ok (some (chain.time height)) :=
    congrArg Except.ok answer
  have read : (checked (ask (.hubBlockTime height))).evaluate chain.node =
      ([Call.hubBlockTime height], .ok (some (chain.time height))) :=
    checked_evaluates
      (congrArg (fun outcome => ([Call.hubBlockTime height], Except.ok outcome)) answered)
  exact Program.evaluate_bind read rfl

/-- The bounds of the search: the deadline is reached at the upper one. -/
structure HubChain.Window (chain : HubChain) (deadline : DateTime) (lower upper : Nat) : Prop where
  positive : 1 ≤ lower
  ordered : lower ≤ upper
  exists_ : upper ≤ chain.latest
  reached : lower < upper → deadline ≤ chain.time upper
  whole : lower = upper → upper = chain.latest

variable {deadline : DateTime}

theorem gallopHeights_evaluates {lower upper distance : Nat} (positive : 0 < distance)
    (window : chain.Window deadline lower upper) :
    ∃ calls low high, (gallopHeights deadline lower upper distance positive).evaluate chain.node =
          (calls, .ok (low, high)) ∧
        chain.Window deadline low high ∧ (low = 1 ∨ chain.time low < deadline) := by
  induction lower using Nat.strong_induction_on generalizing upper distance with
  | _ lower ih =>
    rw [gallopHeights]
    by_cases more : 1 < lower
    · have listed := window.ordered.trans window.exists_
      have asked := blockTime_evaluates window.positive listed
      rw [if_pos more]
      by_cases late : deadline ≤ chain.time lower
      · have smaller : max (lower - distance) 1 < lower := by omega
        have next : chain.Window deadline (max (lower - distance) 1) lower :=
          ⟨le_max_right _ _, smaller.le, listed, fun _ => late, fun same => absurd same smaller.ne⟩
        rcases ih _ smaller (doubled_pos positive) next with
          ⟨calls, low, high, evaluates, rest⟩
        refine ⟨Call.hubBlockTime lower :: calls, low, high, ?_, rest⟩
        apply Program.evaluate_bind asked
        rw [if_pos late]
        exact evaluates
      · refine ⟨[Call.hubBlockTime lower], lower, upper, ?_, window, .inr (not_le.mp late)⟩
        apply Program.evaluate_bind asked
        rw [if_neg late]
        rfl
    · have first : lower = 1 := by
        have positive := window.positive
        omega
      rw [if_neg more]
      exact ⟨[], lower, upper, rfl, window, .inl first⟩

/-- The first block that is not before the deadline. -/
def HubChain.FirstAt (chain : HubChain) (deadline : DateTime) (height : Nat) : Prop :=
  IsLeast { height | 1 ≤ height ∧ height ≤ chain.latest ∧ deadline ≤ chain.time height } height

theorem mem_scanWindow {latest height found : Nat} (above : found - 1 ≤ height)
    (below : height ≤ found) (exists_ : height ≤ latest) :
    height ∈ scanWindow latest found := by
  rw [scanWindow, List.mem_range'_1]
  omega

theorem bisectHeights_evaluates {lower upper : Nat} (window : chain.Window deadline lower upper)
    (ends : lower = 1 ∨ chain.time lower < deadline) :
    ∃ calls found, (bisect (fun mid => do return (← blockTime mid) < deadline) lower upper).evaluate
          chain.node = (calls, .ok found) ∧
        ∀ height, chain.FirstAt deadline height → found - 1 ≤ height ∧ height ≤ found := by
  rcases window.ordered.lt_or_eq with wide | same
  · have asks : ∀ number, lower < number → number < upper →
        (do return (← blockTime number) < deadline : Relay Bool).evaluate chain.node =
          ([Call.hubBlockTime number], .ok (decide (chain.time number < deadline))) := by
      intro number above below
      exact Program.evaluate_bind
        (blockTime_evaluates (window.positive.trans above.le) (below.le.trans window.exists_)) rfl
    rcases @bisect_evaluates _ _ Call.hubBlockTime _ _ lower upper asks wide with
      ⟨calls, found, bisects⟩
    refine ⟨calls, found, bisects.evaluates, ?_⟩
    intro height first
    have listed := bisects.below.trans window.exists_
    have late : deadline ≤ chain.time found := by
      rcases bisects.below.lt_or_eq with inside | rfl
      · exact not_lt.mp (bisects.reached inside)
      · exact window.reached wide
    have above := bisects.above
    have smallest : height ≤ found := first.2 ⟨by omega, listed, late⟩
    refine ⟨?_, smallest⟩
    by_contra smaller
    have reaches := first.1.2.2
    by_cases next : lower + 1 < found
    · have previous := bisects.least next
      have sorted : chain.time height ≤ chain.time (found - 1) :=
        chain.time_mono first.1.1 (by omega) (by omega)
      exact absurd (reaches.trans sorted) (not_le.mpr previous)
    · rcases ends with one | before
      · have positive := first.1.1
        omega
      · have sorted : chain.time height ≤ chain.time lower :=
          chain.time_mono first.1.1 (by omega) (by omega)
        exact absurd (reaches.trans sorted) (not_le.mpr before)
  · have last := window.whole same
    refine ⟨[], upper, ?_, ?_⟩
    · rw [bisect_done (by omega)]
      rfl
    · intro height first
      have positive := first.1.1
      have listed := first.1.2.1
      rcases ends with one | before
      · omega
      · have sorted : chain.time height ≤ chain.time lower :=
          chain.time_mono positive (by omega) (by omega)
        exact absurd (first.1.2.2.trans sorted) (not_le.mpr before)

theorem executionHeight_evaluates (chain : HubChain) (deadline : DateTime) : ∃ calls found,
      (executionHeight chain.latest deadline).evaluate chain.node = (calls, .ok found) ∧
        ∀ height, chain.FirstAt deadline height → height ∈ scanWindow chain.latest found := by
  by_cases some : 1 ≤ chain.latest
  · have window : chain.Window deadline chain.latest chain.latest :=
      ⟨some, le_rfl, le_rfl, fun never => absurd never (lt_irrefl _), fun _ => rfl⟩
    rcases gallopHeights_evaluates (by decide : 0 < 64) window with
      ⟨galloped, low, high, gallops, left, ends⟩
    rcases bisectHeights_evaluates left ends with ⟨halved, found, bisects, near⟩
    refine ⟨galloped ++ halved, found, Program.evaluate_bind gallops bisects, ?_⟩
    intro height first
    rcases near height first with ⟨above, below⟩
    exact mem_scanWindow above below first.1.2.1
  · have empty : chain.latest = 0 := by omega
    rw [empty]
    refine ⟨[], 0, ?_, ?_⟩
    · have stops : gallopHeights deadline 0 0 64 (by decide) = .done (0, 0) := by
        rw [gallopHeights, if_neg (by omega)]
        rfl
      have halved : bisect (fun mid => do return (← blockTime mid) < deadline) 0 0 = .done 0 :=
        bisect_done (by omega)
      rw [executionHeight, stops]
      exact congrArg (Program.evaluate chain.node) halved
    · intro height first
      have positive := first.1.1
      have listed := first.1.2.1
      omega

end Hub

/-!
## Both searches
-/

/-- A block of the edge chain is not before the deadline. -/
def EdgeChain.Reaches (chain : EdgeChain) (deadline : DateTime) (number : Nat) : Prop :=
  @LE.le Int _ deadline (chain.time number * 1000000000)

/-- The first block at or after the deadline itself, or the latest block if there is none. -/
structure EdgeChain.FirstAfter (chain : EdgeChain) (deadline : DateTime) (found : Nat) : Prop where
  least : (∃ number ≤ chain.latest, chain.Reaches deadline number) →
      IsLeast { number | number ≤ chain.latest ∧ chain.Reaches deadline number } found
  latest : (∀ number ≤ chain.latest, ¬ chain.Reaches deadline number) → found = chain.latest

instance (chain : EdgeChain) (deadline : DateTime) (number : Nat) :
    Decidable (chain.Reaches deadline number) :=
  inferInstanceAs (Decidable (_ ≤ _))

/-- The fraction of the deadline does not matter: there is none, or no block but the
latest one has its second. -/
def EdgeChain.Even (chain : EdgeChain) (deadline : DateTime) : Prop :=
  deadline.timestamp * 1000000000 = deadline ∨
    ∀ number < chain.latest, (chain.time number : Int) ≠ deadline.timestamp

/-- Dropping the fraction of the deadline is harmless exactly in these cases. -/
theorem EdgeChain.firstAfter_iff
    {chain : EdgeChain}
    {deadline : DateTime}
    {found : Nat}
    (first : chain.FirstAt (max deadline.timestamp 0).toNat found)
    (exists_ : found ≤ chain.latest) :
    chain.FirstAfter deadline found ↔ chain.Even deadline := by
  have late_of_reaches : ∀ {number}, chain.Reaches deadline number →
      (max deadline.timestamp 0).toNat ≤ chain.time number := by
    intro number reaches
    unfold EdgeChain.Reaches at reaches
    unfold DateTime.timestamp
    omega
  have exactly : ∀ {number}, (max deadline.timestamp 0).toNat ≤ chain.time number →
      ¬ chain.Reaches deadline number →
        (chain.time number : Int) = deadline.timestamp ∧
          deadline.timestamp * 1000000000 ≠ deadline := by
    intro number late misses
    unfold EdgeChain.Reaches at misses
    unfold DateTime.timestamp at late ⊢
    constructor
    · omega
    · intro whole
      omega
  constructor
  · intro after
    by_contra uneven
    obtain ⟨fraction, some⟩ := not_or.mp uneven
    push Not at some
    obtain ⟨number, below, sameSecond⟩ := some
    have late : (max deadline.timestamp 0).toNat ≤ chain.time number := by omega
    have least := first.least ⟨number, below.le, late⟩
    have early : found ≤ number := least.2 ⟨below.le, late⟩
    have misses : ¬ chain.Reaches deadline found := by
      have foundLate := least.1.2
      have sorted : chain.time found ≤ chain.time number := chain.time_mono early below.le
      unfold EdgeChain.Reaches
      unfold DateTime.timestamp at sameSecond foundLate fraction
      omega
    by_cases reached : ∃ number ≤ chain.latest, chain.Reaches deadline number
    · exact misses (after.least reached).1.2
    · push Not at reached
      have isLatest := after.latest reached
      omega
  · intro even
    have reaches_of_late : ∀ {number}, number < chain.latest →
        (max deadline.timestamp 0).toNat ≤ chain.time number → chain.Reaches deadline number := by
      intro number below late
      by_contra misses
      obtain ⟨sameSecond, fraction⟩ := exactly late misses
      exact even.elim fraction fun apart => apart number below sameSecond
    constructor
    · rintro ⟨number, listed, reaches⟩
      have least := first.least ⟨number, listed, late_of_reaches reaches⟩
      refine ⟨⟨exists_, ?_⟩, fun other member => least.2 ⟨member.1, late_of_reaches member.2⟩⟩
      rcases exists_.lt_or_eq with below | isLatest
      · exact reaches_of_late below least.1.2
      · have early : found ≤ number := least.2 ⟨listed, late_of_reaches reaches⟩
        have same : number = found := by omega
        exact same ▸ reaches
    · intro none
      by_cases late : ∃ number ≤ chain.latest,
          (max deadline.timestamp 0).toNat ≤ chain.time number
      · by_contra notLatest
        exact none found exists_
          (reaches_of_late (lt_of_le_of_ne exists_ notLatest) (first.least late).1.2)
      · push Not at late
        exact first.latest late

theorem EdgeChain.FirstAt.exists_
    {chain : EdgeChain}
    {want found : Nat}
    (first : chain.FirstAt want found) :
    found ≤ chain.latest := by
  by_cases late : ∃ number ≤ chain.latest, want ≤ chain.time number
  · exact (first.least late).1.1
  · push Not at late
    exact (first.latest late).le

theorem firstBlockAt_exactly (chain : EdgeChain) (deadline : DateTime) : ∃ probes found,
      (firstBlockAt deadline).evaluate chain.node = (Call.edgeBlockNumber :: probes, .ok found) ∧
        (∀ call ∈ probes, ∃ number ≤ chain.latest, call = Call.edgeBlock number) ∧
        chain.FirstAt (max deadline.timestamp 0).toNat found ∧
        (chain.FirstAfter deadline found ↔ chain.Even deadline) := by
  obtain ⟨probes, found, evaluates, existing, first⟩ := firstBlockAt_evaluates chain deadline
  exact ⟨probes, found, evaluates, existing, first, EdgeChain.firstAfter_iff first first.exists_⟩

/-- On every chain and for every deadline both searches end.  The one on the edge chain
reads existing blocks only and finds the first block whose time is at or after the whole
seconds of the deadline, or the latest block.  That is the first block at or after the
deadline itself exactly when the deadline has no fraction or no block but the latest has
its second.  What is scanned on the hub has the first height at or after the deadline. -/
theorem deadline_searches_find_their_blocks
    (chain : EdgeChain)
    (hub : HubChain)
    (deadline : DateTime) :
    (∃ probes found, (firstBlockAt deadline).evaluate chain.node =
            (Call.edgeBlockNumber :: probes, .ok found) ∧
          (∀ call ∈ probes, ∃ number ≤ chain.latest, call = Call.edgeBlock number) ∧
          chain.FirstAt (max deadline.timestamp 0).toNat found ∧
          (chain.FirstAfter deadline found ↔ chain.Even deadline)) ∧
      ∃ calls found,
          (executionHeight hub.latest deadline).evaluate hub.node = (calls, .ok found) ∧
            ∀ height, hub.FirstAt deadline height → height ∈ scanWindow hub.latest found :=
  ⟨firstBlockAt_exactly chain deadline, executionHeight_evaluates hub deadline⟩

def twoBlocks : EdgeChain where
  times := [100, 101]
  inhabited := by decide
  ordered := by decide

/-- Half a second after the first block the search finds the first block, which is before
the deadline; the block after it is the first one that is not. -/
theorem fraction_of_deadline_is_dropped :
    ((firstBlockAt 100500000000).evaluate twoBlocks.node).2 = .ok 0 ∧
      ¬ twoBlocks.FirstAfter 100500000000 0 ∧ twoBlocks.FirstAfter 100500000000 1 := by
  have reached : twoBlocks.Reaches 100500000000 1 := by decide
  have missed : ¬ twoBlocks.Reaches 100500000000 0 := by decide
  refine ⟨?_, fun after => missed (after.least ⟨1, by decide, reached⟩).1.2, ?_, ?_⟩
  · rcases firstBlockAt_evaluates twoBlocks 100500000000 with
      ⟨probes, found, evaluates, _, first⟩
    have least := first.least ⟨0, by decide, by decide⟩
    have smallest : found ≤ 0 := least.2 ⟨by decide, by decide⟩
    rw [evaluates, Nat.le_zero.mp smallest]
  · intro _
    refine ⟨⟨by decide, reached⟩, ?_⟩
    rintro number ⟨_, late⟩
    by_contra smaller
    have zero : number = 0 := by omega
    exact missed (zero ▸ late)
  · exact fun never => absurd reached (never 1 (by decide))

end Axe.Propose

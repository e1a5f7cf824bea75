import Mathlib.Data.Int.CardIntervalMod
import Axe.Checks
import Axe.ProgramLog
import Axe.SustainedLoad

namespace Axe.LoadTesting

open Hardened (U64)
open Verification

/-!
# The shape of a load test

A run is a burst with one transaction per key, or it is sustained: in each second a
batch of keys sends, and the batches rotate through the pool of keys.  How often the
schedule comes back to a key decides how much that key has to hold.
-/

inductive RunMode where
  | burst (numTxs : Nat)
  | sustained (plan : SustainedPlan)
  deriving DecidableEq

/-- Validated run mode plus the derived wallet and transaction counts. -/
structure RunSizing where
  mode : RunMode
  numKeys : Nat
  totalExpected : Nat
  deriving DecidableEq

def nonzero (value : U64) (flag : String) : Except String Nat := do
  Check.ensure (value ≠ 0) (flag ++ " must be greater than zero")
  return value.toNat

namespace RunSizing

/-- The sizes of a run; wallet counts have the width of transaction counts. -/
def fromValues (numTxs : U64) (tps durationSecs : Option U64)
    (keyCycle : U64) : Except String RunSizing :=
  match tps, durationSecs with
  | none, none => do
    let numTxs ← nonzero numTxs "--num-txs"
    return ⟨.burst numTxs, numTxs, numTxs⟩
  | some tps, some durationSecs => do
    let tps ← nonzero tps "--tps"
    let durationSecs ← nonzero durationSecs "--duration-secs"
    let keyCycle ← nonzero keyCycle "--key-cycle"
    Check.ensure (tps * durationSecs < 2 ^ 64)
      "--tps multiplied by --duration-secs exceeds the supported transaction count"
    Check.ensure (tps * keyCycle < 2 ^ 64)
      "--tps multiplied by --key-cycle exceeds the supported wallet count"
    return ⟨.sustained ⟨tps, durationSecs, keyCycle⟩, tps * keyCycle, tps * durationSecs⟩
  | _, _ => .error "--tps and --duration-secs must be provided together for a sustained load test"

/-- All transactions are sent at once. -/
def isBurst (sizing : RunSizing) : Bool :=
  match sizing.mode with
  | .burst _ => true
  | .sustained _ => false

/-- The rounds of a key: the duration over the cycle, rounded up. -/
def transactionsPerKey (sizing : RunSizing) : Nat :=
  match sizing.mode with
  | .burst _ => 1
  | .sustained plan => (plan.durationSecs + plan.keyCycle - 1) / plan.keyCycle

def Accepted (sizing : RunSizing) : Prop :=
  ∃ numTxs tps durationSecs keyCycle, fromValues numTxs tps durationSecs keyCycle = .ok sizing

end RunSizing

/-- The keys that send at some ticks. -/
def tickKeys (plan : SustainedPlan) (ticks : List Nat) : List Nat :=
  ticks.flatMap fun tick =>
    (List.range plan.tps).map fun offset => scheduledKeyIndex tick offset plan

namespace RunSizing

/-- The keys that send, in order: in a burst each key has one job. -/
def schedule (sizing : RunSizing) : List Nat :=
  match sizing.mode with
  | .burst _ => List.range sizing.numKeys
  | .sustained plan => tickKeys plan (List.range plan.durationSecs)

/-- How often a key sends. -/
def uses (sizing : RunSizing) (key : Nat) : Nat := sizing.schedule.count key

end RunSizing

/-!
## The sustained loop follows the schedule
-/

section Loop

variable {Local World : Type} {machine : Machine loadTestInterface Local World}
variable {here here' : Local} {world world' : World × List (Exchange loadTestInterface)}

def StartsNothing (call : Call) : Prop := ∀ keyIndex nonce, call ≠ .spawn keyIndex nonce

theorem collectSustainedMetrics_startsNothing (rounds : Nat) (metrics : List TxMetrics)
    (failed : Bool) :
    (collectSustainedMetrics rounds metrics failed).Only StartsNothing := by
  induction rounds generalizing metrics failed with
  | zero => trivial
  | succ rounds ih =>
    refine ⟨by simp [StartsNothing], fun empty => ?_⟩
    cases empty with
    | true => trivial
    | false =>
      refine ⟨by simp [StartsNothing], fun joined => ?_⟩
      cases joined with
      | finished metric => exact ih _ _
      | tick => exact ih _ _
      | died =>
        cases failed with
        | true => exact ih _ _
        | false => exact ⟨by simp [StartsNothing], fun _ => ih _ _⟩

theorem runSustainedLoop_sends {plan : SustainedPlan} {nonces : Option (List U64)}
    {result : Except String (List TxMetrics)}
    (executes :
      Executes machine.logged (runSustainedLoop plan nonces) here world result here' world') :
    ∃ sent middle between added,
      Executes machine.logged (sendTicks plan plan.durationSecs nonces) here world sent middle
          between ∧
        world'.2 = between.2 ++ added ∧ ∀ exchange ∈ added, StartsNothing exchange.1 := by
  simp only [runSustainedLoop, Program.bind_eq] at executes
  rcases executes.bind_cases with ⟨_, _, between, sending, later⟩ | ⟨_, _, sending⟩
  · have silent : Program.Only StartsNothing ((ask .rounds).bind fun rounds : Nat =>
          (collectSustainedMetrics rounds [] false).bind fun collected =>
            (ask .storeSendDone).bind fun _ : Unit =>
              (Program.ensure (collected.2 = false) "sustained send task failed").bind
                fun _ => pure collected.1 : LoadTest (List TxMetrics)) := by
      refine ⟨by simp [StartsNothing], fun rounds => ?_⟩
      apply Program.Only.bind (collectSustainedMetrics_startsNothing rounds [] false)
      intro collected
      refine ⟨by simp [StartsNothing], fun _ => ?_⟩
      apply Program.Only.bind (Program.only_ensure (collected.2 = false) _)
      intro _
      trivial
    rcases later.log_of_only silent with ⟨added, extended, nothing⟩
    exact ⟨_, _, between, added, sending, extended, nothing⟩
  · exact ⟨_, _, world', [], sending, (List.append_nil _).symm, by simp⟩

end Loop

/-!
## How often a key sends
-/

theorem nonzero_eq_ok
    {value : U64}
    {flag : String}
    {result : Nat} :
    nonzero value flag = .ok result ↔ result = value.toNat ∧ 0 < result := by
  have positive : value ≠ 0 ↔ 0 < value.toNat := by
    constructor
    · intro different
      by_contra zero
      exact different (BitVec.eq_of_toNat_eq (by simpa using Nat.le_zero.mp (not_lt.mp zero)))
    · rintro above rfl
      simp at above
  simp only [nonzero, Check.bind_eq_ok, Check.ensure_eq_ok, positive, pure, Except.pure,
    Except.ok.injEq]
  constructor
  · rintro ⟨_, above, rfl⟩
    exact ⟨rfl, above⟩
  · rintro ⟨rfl, above⟩
    exact ⟨(), above, rfl⟩

inductive RunSizing.Shape : RunSizing → Prop where
  | burst
      {numTxs : Nat}
      (positive : 0 < numTxs) :
      Shape ⟨.burst numTxs, numTxs, numTxs⟩
  | sustained
      {plan : SustainedPlan}
      (tps : 0 < plan.tps)
      (durationSecs : 0 < plan.durationSecs)
      (keyCycle : 0 < plan.keyCycle) :
      Shape ⟨.sustained plan, plan.tps * plan.keyCycle, plan.tps * plan.durationSecs⟩

theorem RunSizing.Accepted.shape {sizing : RunSizing} (accepted : sizing.Accepted) :
    sizing.Shape := by
  rcases accepted with ⟨numTxs, tps, durationSecs, keyCycle, sized⟩
  cases tps with
  | none =>
    cases durationSecs with
    | none =>
      simp only [RunSizing.fromValues, Check.bind_eq_ok, nonzero_eq_ok] at sized
      rcases sized with ⟨count, ⟨_, positive⟩, ⟨rfl⟩⟩
      exact .burst positive
    | some durationSecs => cases sized
  | some tps =>
    cases durationSecs with
    | none => cases sized
    | some durationSecs =>
      simp only [RunSizing.fromValues, Check.bind_eq_ok, nonzero_eq_ok] at sized
      rcases sized with
        ⟨rate, ⟨_, tpsPositive⟩, seconds, ⟨_, secondsPositive⟩, cycle, ⟨_, cyclePositive⟩,
          _, _, _, _, ⟨rfl⟩⟩
      exact @RunSizing.Shape.sustained ⟨rate, seconds, cycle⟩ tpsPositive secondsPositive
        cyclePositive

section Counting

variable {plan : SustainedPlan}

theorem count_tick (tps : 0 < plan.tps) (tick key : Nat) :
    ((List.range plan.tps).map fun offset => scheduledKeyIndex tick offset plan).count key =
      if tick % plan.keyCycle = key / plan.tps then 1 else 0 := by
  have distinct :
      ((List.range plan.tps).map fun offset => scheduledKeyIndex tick offset plan).Nodup := by
    apply List.nodup_range.map
    intro first second same
    exact Nat.add_left_cancel same
  rw [distinct.count]
  have listed : (key ∈ (List.range plan.tps).map fun offset => scheduledKeyIndex tick offset plan) ↔
        tick % plan.keyCycle = key / plan.tps := by
    simp only [List.mem_map, List.mem_range, scheduledKeyIndex]
    constructor
    · rintro ⟨offset, below, rfl⟩
      rw [Nat.mul_comm, Nat.mul_add_div tps, Nat.div_eq_of_lt below, Nat.add_zero]
    · intro batch
      refine ⟨key % plan.tps, Nat.mod_lt _ tps, ?_⟩
      rw [batch, Nat.mul_comm]
      exact Nat.div_add_mod key plan.tps
  simp only [listed]

theorem count_tickKeys (tps : 0 < plan.tps) (ticks : List Nat) (key : Nat) :
    (tickKeys plan ticks).count key =
      ticks.countP fun tick => tick % plan.keyCycle = key / plan.tps := by
  induction ticks with
  | nil => rfl
  | cons tick rest ih =>
    have split : tickKeys plan (tick :: rest) =
          (List.range plan.tps).map (fun offset => scheduledKeyIndex tick offset plan) ++
            tickKeys plan rest := rfl
    rw [split, List.count_append, count_tick tps, ih, List.countP_cons]
    by_cases batch : tick % plan.keyCycle = key / plan.tps
    · simp [batch, Nat.add_comm]
    · simp [batch]

theorem count_schedule (tps : 0 < plan.tps) (keyCycle : 0 < plan.keyCycle) {key : Nat}
    (pooled : key < plan.tps * plan.keyCycle) :
    (tickKeys plan (List.range plan.durationSecs)).count key = plan.durationSecs / plan.keyCycle +
        if key / plan.tps < plan.durationSecs % plan.keyCycle then 1 else 0 := by
  have batch : key / plan.tps < plan.keyCycle := Nat.div_lt_of_lt_mul pooled
  have counted := Nat.count_modEq_card plan.durationSecs keyCycle (key / plan.tps)
  rw [Nat.mod_eq_of_lt batch] at counted
  rw [count_tickKeys tps, ← counted, Nat.count]
  apply List.countP_congr
  intro tick _
  simp [Nat.ModEq, Nat.mod_eq_of_lt batch]

theorem ceiling_eq (seconds : Nat) {cycle : Nat} (positive : 0 < cycle) :
    (seconds + cycle - 1) / cycle = seconds / cycle + if 0 < seconds % cycle then 1 else 0 := by
  have parts := Nat.div_add_mod seconds cycle
  have small := Nat.mod_lt seconds positive
  by_cases whole : 0 < seconds % cycle
  · have shifted : seconds + cycle - 1 = cycle * (seconds / cycle + 1) + (seconds % cycle - 1) := by
      rw [Nat.mul_add]
      omega
    have below : seconds % cycle - 1 < cycle := by omega
    rw [shifted, Nat.mul_add_div positive, Nat.div_eq_of_lt below, if_pos whole, Nat.add_zero]
  · have shifted : seconds + cycle - 1 = cycle * (seconds / cycle) + (cycle - 1) := by omega
    have below : cycle - 1 < cycle := Nat.sub_lt positive Nat.one_pos
    rw [shifted, Nat.mul_add_div positive, Nat.div_eq_of_lt below, if_neg whole]

end Counting

namespace RunSizing

variable {sizing : RunSizing}

theorem Shape.uses_le (shape : sizing.Shape) {key : Nat} (pooled : key < sizing.numKeys) :
    sizing.uses key ≤ sizing.transactionsPerKey := by
  cases shape with
  | burst positive => exact List.nodup_iff_count_le_one.mp List.nodup_range key
  | sustained tps durationSecs keyCycle =>
    simp only [uses, schedule, transactionsPerKey]
    rw [count_schedule tps keyCycle pooled, ceiling_eq _ keyCycle]
    apply Nat.add_le_add_left
    split
    · rename_i first
      rw [if_pos (Nat.zero_lt_of_lt first)]
    · exact Nat.zero_le _

theorem Shape.uses_first (shape : sizing.Shape) : sizing.uses 0 = sizing.transactionsPerKey := by
  cases shape with
  | burst positive => exact List.count_eq_one_of_mem List.nodup_range (List.mem_range.mpr positive)
  | sustained tps durationSecs keyCycle =>
    simp only [uses, schedule, transactionsPerKey]
    rw [count_schedule tps keyCycle (Nat.mul_pos tps keyCycle), ceiling_eq _ keyCycle, Nat.zero_div]

theorem Shape.numKeys_pos (shape : sizing.Shape) : 0 < sizing.numKeys := by
  cases shape with
  | burst positive => exact positive
  | sustained tps durationSecs keyCycle => exact Nat.mul_pos tps keyCycle

end RunSizing

end Axe.LoadTesting

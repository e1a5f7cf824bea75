import Axe.FundedSchedules
import Axe.ProgramTraces
import Axe.SustainedSchedule

namespace Axe.LoadTesting

open Hardened (Address U64)
open Verification

/-!
# The nonces of the senders

Every key of a sustained run counts its own nonces, from the nonce that its account has at the
start.  Two keys that are one account count the same nonces twice: on Hedera all keys are the
main wallet.
-/

/-- The transactions with their senders and nonces. -/
def handedOut (senders : List Address) (transactions : List (Nat × Option U64)) :
    List (Option Address × Option U64) :=
  transactions.map fun transaction => (senders[transaction.1]?, transaction.2)

def noncesTo (sender : Address) (handed : List (Option Address × Option U64)) : List (Option U64) :=
  (handed.filter fun entry => entry.1 = some sender).map Prod.snd

/-- No sender gets a nonce twice, and each one counts up from its own. -/
structure UniqueNonces (senders : List Address) (nonceOf : Address → U64)
    (transactions : List (Nat × Option U64)) : Prop where
  distinct : (handedOut senders transactions).Nodup
  counting : ∀ sender ∈ senders, ∃ count, noncesTo sender (handedOut senders transactions) =
      (consecutive (nonceOf sender) count).map some

theorem nodup_consecutive (start : U64) {count : Nat} (fits : count < 2 ^ 64) :
    (consecutive start count).Nodup := by
  apply List.Nodup.map_on _ List.nodup_range
  intro first isFirst second isSecond same
  have same := congrArg BitVec.toNat ((BitVec.add_right_inj start).mp same)
  have firstFits := List.mem_range.mp isFirst
  have secondFits := List.mem_range.mp isSecond
  rwa [BitVec.toNat_ofNat, BitVec.toNat_ofNat, Nat.mod_eq_of_lt (by omega),
    Nat.mod_eq_of_lt (by omega)] at same

variable {transactions : List (Nat × Option U64)}

theorem nodup_of_noncesOf (each : ∀ key, (noncesOf key transactions).Nodup)
    : transactions.Nodup := by
  induction transactions with
  | nil => exact List.nodup_nil
  | cons transaction rest ih =>
    have first := each transaction.1
    rw [noncesOf, List.filter_cons_of_pos (by simp), List.map_cons, List.nodup_cons] at first
    refine List.nodup_cons.mpr ⟨fun again => ?_, ih fun key => ?_⟩
    · exact first.1 (List.mem_map_of_mem (List.mem_filter.mpr ⟨again, by simp⟩))
    · exact List.Nodup.sublist (((List.sublist_cons_self transaction rest).filter _).map _)
        (each key)

section Senders

variable {senders : List Address} {nonceOf : Address → U64} {used : List Nat}

theorem noncesTo_handedOut (nodup : senders.Nodup) {key : Nat} {sender : Address}
    (isSender : senders[key]? = some sender) (transactions : List (Nat × Option U64)) :
    noncesTo sender (handedOut senders transactions) = noncesOf key transactions := by
  rw [noncesTo, handedOut, List.filter_map, List.map_map, noncesOf]
  congr 1
  apply List.filter_congr
  intro transaction _
  have bound := (List.getElem?_eq_some_iff.mp isSender).1
  simp only [Function.comp_apply, decide_eq_decide]
  constructor
  · intro same
    exact ((List.getElem?_inj bound nodup).mp (isSender.trans same.symm)).symm
  · rintro rfl
    exact isSender

theorem uniqueNonces_numbered (nodup : senders.Nodup) (pooled : ∀ key ∈ used, key < senders.length)
    (fits : used.length < 2 ^ 64) :
    UniqueNonces senders nonceOf (numbered used (nextNonce (senders.map nonceOf))) := by
  have each (key : Nat) :
      (noncesOf key (numbered used (nextNonce (senders.map nonceOf)))).Nodup := by
    rw [noncesOf_numbered]
    apply (nodup_consecutive _ _).map (Option.some_injective _)
    exact Nat.lt_of_le_of_lt List.count_le_length fits
  constructor
  · apply List.Nodup.map_on _ (nodup_of_noncesOf each)
    intro first isFirst second isSecond same
    have keys {transaction : Nat × Option U64}
        (member : transaction ∈ numbered used (nextNonce (senders.map nonceOf))) :
        transaction.1 < senders.length := by
      have listed := List.mem_map_of_mem (f := Prod.fst) member
      rw [map_fst_numbered] at listed
      exact pooled _ listed
    obtain ⟨sameSender, sameNonce⟩ := Prod.mk.inj same
    exact Prod.ext ((List.getElem?_inj (keys isFirst) nodup).mp sameSender) sameNonce
  · intro sender member
    obtain ⟨key, isSender⟩ := List.mem_iff_getElem?.mp member
    refine ⟨used.count key, ?_⟩
    rw [noncesTo_handedOut nodup isSender, noncesOf_numbered]
    simp [nextNonce, List.getD, isSender]

/-- A single transaction repeats nothing, whoever the senders are. -/
theorem uniqueNonces_of_short
    (pooled : ∀ key ∈ used, key < senders.length)
    (short : used.length ≤ 1) :
    UniqueNonces senders nonceOf (numbered used (nextNonce (senders.map nonceOf))) := by
  rcases used with _ | ⟨key, _ | _⟩
  · exact ⟨List.nodup_nil, fun _ _ => ⟨0, rfl⟩⟩
  · have bound : key < senders.length := pooled key (by simp)
    refine ⟨List.nodup_singleton _, fun sender _ => ?_⟩
    by_cases own : senders[key] = sender
    · refine ⟨1, ?_⟩
      simp [noncesTo, handedOut, numbered, nextNonce, consecutive, bound, own]
    · exact ⟨0, by simp [noncesTo, handedOut, numbered, consecutive, bound, own]⟩
  · simp at short

/-- The first transaction of a key has the nonce from which the key counts. -/
theorem mem_numbered
    {key : Nat}
    (isUsed : key ∈ used)
    (next : Nat → U64) :
    (key, some (next key)) ∈ numbered used next := by
  have first : some (next key) ∈ noncesOf key (numbered used next) := by
    rw [noncesOf_numbered]
    refine List.mem_map_of_mem (List.mem_map.mpr ⟨0, ?_, by simp⟩)
    exact List.mem_range.mpr (List.count_pos_iff.mpr isUsed)
  obtain ⟨transaction, member, nonce⟩ := List.mem_map.mp first
  obtain ⟨listed, isKey⟩ := List.mem_filter.mp member
  have same : transaction = (key, some (next key)) := Prod.ext (of_decide_eq_true isKey) nonce
  exact same ▸ listed

/-- Two keys that are one account hand out the nonce of the account twice. -/
theorem not_nodup_handedOut
    {main : Address}
    {count : Nat}
    (nonceOf : Address → U64)
    (two : 2 ≤ count)
    (first : 0 ∈ used)
    (second : 1 ∈ used) :
    ¬ (handedOut (List.replicate count main) (numbered used
      (nextNonce ((List.replicate count main).map nonceOf)))).Nodup := by
  intro nodup
  have same := List.inj_on_of_nodup_map nodup (mem_numbered first _) (mem_numbered second _) (by
    simp [nextNonce, List.getD, show 0 < count by omega, show 1 < count by omega])
  simp at same

end Senders

variable {sizing : RunSizing} {plan : SustainedPlan}

/-- A plan with two keys and two transactions uses its first two keys. -/
theorem mem_tickKeys_of_two
    (tps : 0 < plan.tps)
    (keys : 2 ≤ plan.tps * plan.keyCycle)
    (total : 2 ≤ plan.tps * plan.durationSecs) :
    0 ∈ tickKeys plan (List.range plan.durationSecs) ∧
      1 ∈ tickKeys plan (List.range plan.durationSecs) := by
  have seconds : 0 < plan.durationSecs := Nat.pos_of_ne_zero fun zero => by simp [zero] at total
  have used {tick offset : Nat} (runs : tick < plan.durationSecs) (fires : offset < plan.tps) :
      scheduledKeyIndex tick offset plan ∈ tickKeys plan (List.range plan.durationSecs) :=
    List.mem_flatMap.mpr ⟨tick, List.mem_range.mpr runs,
      List.mem_map.mpr ⟨offset, List.mem_range.mpr fires, rfl⟩⟩
  constructor
  · simpa [scheduledKeyIndex] using used seconds tps
  · by_cases several : 1 < plan.tps
    · simpa [scheduledKeyIndex] using used seconds several
    · have one : plan.tps = 1 := by omega
      rw [one, Nat.one_mul] at keys total
      have second := @used 1 0 (by omega) tps
      rwa [scheduledKeyIndex, one, Nat.mod_eq_of_lt (by omega)] at second

/-- The exchange does not disturb the run. -/
def Calm (exchange : Exchange loadTestInterface) : Prop :=
  requestSeen exchange ≠ some true ∧ cutTick exchange = false

theorem exists_calm (op : loadTestInterface.Call) : ∃ reply, Calm ⟨op, reply⟩ := by
  cases (op : Call) with
  | rounds => exact ⟨(0 : Nat), by simp [requestSeen], rfl⟩
  | tick => exact ⟨true, by simp [requestSeen], rfl⟩
  | shutdownRequested => exact ⟨false, by simp [requestSeen], rfl⟩
  | joinNext => exact ⟨Joined.tick, by simp [requestSeen], rfl⟩
  | tasksEmpty => exact ⟨true, by simp [requestSeen], rfl⟩
  | _ => exact ⟨(), by simp [requestSeen], rfl⟩

theorem nodup_derivedKeys {wallets : Wallets} {sourceAxelarId : String} {route : Route}
    {senders : List Address} (shared : route = .evm ∨ route = .sol)
    (derives : derivedKeys wallets sourceAxelarId sizing route = some senders)
    (separate : sourceAxelarId ≠ "hedera" ∨ sizing.numKeys ≤ 1) :
    senders.Nodup ∧ senders.length = sizing.numKeys := by
  by_cases single : sizing.numKeys ≤ 1
  · have same : senders = List.replicate sizing.numKeys wallets.main := by
      rcases shared with rfl | rfl
      · simpa [derivedKeys, Wallets.deriveEvmSigners, single] using derives.symm
      · simpa [derivedKeys, Wallets.deriveEvmSigners, single] using derives.symm
    rw [same]
    exact ⟨List.nodup_replicate.mpr single, List.length_replicate⟩
  · have foreign : sourceAxelarId ≠ "hedera" := separate.resolve_right single
    have derived : (List.range sizing.numKeys).mapM wallets.derive = some senders := by
      rcases shared with rfl | rfl
      · simpa [derivedKeys, foreign, Wallets.deriveEvmSigners, single] using derives
      · simpa [derivedKeys, foreign, Wallets.deriveEvmSigners, single] using derives
    have pooled := pooled_of_mapM derived
    exact ⟨pooled.nodup, pooled.count⟩

theorem length_derivedKeys {wallets : Wallets} {sourceAxelarId : String} {route : Route}
    {senders : List Address} (shared : route = .evm ∨ route = .sol)
    (derives : derivedKeys wallets sourceAxelarId sizing route = some senders) :
    senders.length = sizing.numKeys := by
  by_cases hedera : sourceAxelarId = "hedera"
  · have same : senders = List.replicate sizing.numKeys wallets.main := by
      rcases shared with rfl | rfl <;> simpa [derivedKeys, hedera] using derives.symm
    rw [same, List.length_replicate]
  · exact (nodup_derivedKeys shared derives (.inl hedera)).2

theorem RunSizing.Accepted.total_fits (accepted : sizing.Accepted)
    (sustained : sizing.mode = .sustained plan) : plan.tps * plan.durationSecs < 2 ^ 64 := by
  rcases accepted with ⟨numTxs, tps, durationSecs, keyCycle, sized⟩
  cases tps with
  | none =>
    cases durationSecs with
    | none =>
      simp only [RunSizing.fromValues, Check.bind_eq_ok, nonzero_eq_ok] at sized
      rcases sized with ⟨count, _, ⟨rfl⟩⟩
      cases sustained
    | some durationSecs => cases sized
  | some tps =>
    cases durationSecs with
    | none => cases sized
    | some durationSecs =>
      simp only [RunSizing.fromValues, Check.bind_eq_ok, nonzero_eq_ok, Check.ensure_eq_ok] at sized
      rcases sized with ⟨_, _, _, _, _, _, _, fits, _, _, ⟨rfl⟩⟩
      cases sustained
      exact fits

theorem numbered_of_isPrefix {keys : List Nat} {next : Nat → U64}
    (first : transactions <+: numbered keys next) :
    ∃ used, used <+: keys ∧ transactions = numbered used next := by
  refine ⟨keys.take transactions.length, List.take_prefix _ _, ?_⟩
  have parts := numbered_append (keys.take transactions.length) (keys.drop transactions.length) next
  rw [List.take_append_drop] at parts
  have bound := first.length_le
  have total := congrArg List.length (map_fst_numbered keys next)
  have length := congrArg List.length (map_fst_numbered (keys.take transactions.length) next)
  rw [List.length_map] at total length
  rw [List.length_take] at length
  apply (List.prefix_iff_eq_take.mp first).trans
  rw [parts, List.take_append_of_le_length (by omega), List.take_of_length_le (by omega)]

theorem fired_traces (accepted : sizing.Accepted) (sustained : sizing.mode = .sustained plan)
    {starts : List U64} (pool : starts.length = sizing.numKeys) :
    (runSustainedLoop plan (some starts)).Traces fun exchanges _ =>
      (Undisturbed exchanges → fired exchanges = plannedTransactions plan starts) ∧
        (Lasting exchanges → fired exchanges <+: plannedTransactions plan starts) := by
  apply Program.Traces.of_executes []
  intro exchanges result executes
  cases accepted.shape with
  | burst positive => cases sustained
  | sustained tps durationSecs keyCycle =>
    cases sustained
    exact runSustainedLoop_fires keyCycle pool executes rfl

/-- In every run no sender is handed a nonce twice, and each sender is handed consecutive
nonces from the one its account has at the start, exactly if the keys are different accounts,
or there is only one key or one transaction. -/
theorem sender_nonces_are_unique
    (accepted : sizing.Accepted)
    (sustained : sizing.mode = .sustained plan)
    (wallets : Wallets)
    (sourceAxelarId : String)
    (route : Route)
    (shared : route = .evm ∨ route = .sol)
    (senders : List Address)
    (derives : derivedKeys wallets sourceAxelarId sizing route = some senders)
    (nonceOf : Address → U64) :
    ((runSustainedLoop plan (some (senders.map nonceOf))).Traces fun exchanges _ =>
        Lasting exchanges → UniqueNonces senders nonceOf (fired exchanges)) ↔
      sourceAxelarId ≠ "hedera" ∨ sizing.numKeys ≤ 1 ∨ plan.tps * plan.durationSecs ≤ 1 := by
  have length := length_derivedKeys shared derives
  have pool : (senders.map nonceOf).length = sizing.numKeys := by rw [List.length_map, length]
  have fires := fired_traces accepted sustained pool
  constructor
  · intro unique
    by_contra repeats
    push Not at repeats
    obtain ⟨rfl, keys, total⟩ := repeats
    obtain ⟨exchanges, _, isUnique, ⟨complete, _⟩, calm⟩ :=
      Program.Traces.exists_run exists_calm unique fires
    have lasting : Lasting exchanges := List.pairwise_of_forall_mem_list
      fun earlier member _ _ seen => absurd seen (calm earlier member).1
    have distinct := (isUnique lasting).distinct
    have same : senders = List.replicate sizing.numKeys wallets.main := by
      rcases shared with rfl | rfl <;> simpa [derivedKeys] using derives.symm
    rw [complete calm, same] at distinct
    cases accepted.shape with
    | burst positive => cases sustained
    | sustained tps durationSecs keyCycle =>
      cases sustained
      obtain ⟨first, second⟩ := mem_tickKeys_of_two tps keys total
      exact not_nodup_handedOut nonceOf keys first second distinct
  · intro separate
    have rotates := plannedTransactions_rotates accepted.shape sustained pool
    apply fires.mono
    intro exchanges _ described lasting
    obtain ⟨used, isFirst, isFired⟩ := numbered_of_isPrefix (described.2 lasting)
    rw [isFired]
    have ticking := rotates.ticking
    have total := rotates.total
    rw [← List.length_map (f := Prod.fst), ticking] at total
    have short : used.length ≤ plan.tps * plan.durationSecs :=
      isFirst.length_le.trans (Nat.le_of_eq total)
    have pooled : ∀ key ∈ used, key < senders.length := by
      intro key member
      rw [length]
      have planned : key ∈ (plannedTransactions plan (senders.map nonceOf)).map Prod.fst := by
        rw [ticking]
        exact isFirst.subset member
      obtain ⟨transaction, isTransaction, rfl⟩ := List.mem_map.mp planned
      exact rotates.pooled transaction isTransaction
    rcases or_assoc.mpr separate with different | single
    · have fits := RunSizing.Accepted.total_fits accepted sustained
      exact uniqueNonces_numbered (nodup_derivedKeys shared derives different).1 pooled
        (Nat.lt_of_le_of_lt short fits)
    · exact uniqueNonces_of_short pooled (short.trans single)

/-- Two derived keys from Ethereum. -/
theorem two_derived_keys_have_unique_nonces :
    derivedKeys numberedWallets "ethereum" ⟨.sustained ⟨2, 3, 1⟩, 2, 6⟩ .evm = some [1, 2] ∧
      (runSustainedLoop ⟨2, 3, 1⟩ (some [7, 7])).Traces fun exchanges _ =>
        Lasting exchanges → UniqueNonces [1, 2] (fun _ => 7) (fired exchanges) :=
  ⟨rfl, (@sender_nonces_are_unique ⟨.sustained ⟨2, 3, 1⟩, 2, 6⟩ ⟨2, 3, 1⟩
    ⟨0, some 2, some 3, 1, by decide⟩ rfl numberedWallets "ethereum" .evm (.inl rfl) [1, 2] rfl
    (fun _ => 7)).mpr (.inl (by decide))⟩

/-- Two keys on Hedera are the main wallet twice, which is handed its first nonce twice. -/
theorem hedera_nonces_are_repeated : (⟨.sustained ⟨2, 1, 1⟩, 2, 2⟩ : RunSizing).Accepted ∧
      derivedKeys numberedWallets "hedera" ⟨.sustained ⟨2, 1, 1⟩, 2, 2⟩ .evm =
        some [numberedWallets.main, numberedWallets.main] ∧
      ¬ (runSustainedLoop ⟨2, 1, 1⟩ (some [7, 7])).Traces fun exchanges _ =>
        Lasting exchanges → UniqueNonces [numberedWallets.main, numberedWallets.main] (fun _ => 7)
            (fired exchanges) := by
  refine ⟨⟨0, some 2, some 1, 1, by decide⟩, rfl, ?_⟩
  intro traces
  have reached := traces true false () false () true (0 : Nat)
  have unique := reached (by simp [Lasting, requestSeen])
  exact absurd unique.distinct (by decide)

end Axe.LoadTesting

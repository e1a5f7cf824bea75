import Axe.RunSizing

namespace Axe.LoadTesting

open Hardened (U64)
open Verification

/-!
# The rotation of a sustained run

A sustained run hands out one nonce with each transaction, and every key counts on
its own.  Without a shutdown the run fires the whole rotation; a shutdown cuts it off
somewhere, because a shutdown that was requested stays requested.
-/

/-- The key and the nonce of a transaction, if the log shows that one was fired. -/
def firedBy (exchange : Exchange loadTestInterface) : Option (Nat × Option U64) :=
  match exchange.1 with
  | Call.spawn keyIndex nonce => some (keyIndex, nonce)
  | _ => none

/-- The keys and the nonces of the started transactions. -/
def fired (log : List (Exchange loadTestInterface)) : List (Nat × Option U64) :=
  log.filterMap firedBy

def requestSeen : Exchange loadTestInterface → Option Bool
  | ⟨.shutdownRequested, requested⟩ => some requested
  | _ => none

def cutTick : Exchange loadTestInterface → Bool
  | ⟨.tick, ready⟩ => !ready
  | _ => false

/-- A shutdown that was requested stays requested. -/
def Lasting (log : List (Exchange loadTestInterface)) : Prop :=
  log.Pairwise fun earlier later => requestSeen earlier = some true → requestSeen later ≠ some false

/-- The run saw a shutdown request between two transactions. -/
def Requested (log : List (Exchange loadTestInterface)) : Prop :=
  ∃ exchange ∈ log, requestSeen exchange = some true

/-- The run saw no shutdown, neither at a tick nor between two transactions. -/
def Undisturbed (log : List (Exchange loadTestInterface)) : Prop :=
  ∀ exchange ∈ log, requestSeen exchange ≠ some true ∧ cutTick exchange = false

/-!
## Counting nonces
-/

/-- The nonce that each key uses next, after some keys were used. -/
def advance : List Nat → (Nat → U64) → Nat → U64
  | [], next => next
  | key :: rest, next => advance rest (Function.update next key (next key + 1))

/-- Keys with their nonces, each key counting up from its own next nonce. -/
def numbered : List Nat → (Nat → U64) → List (Nat × Option U64)
  | [], _ => []
  | key :: rest, next =>
    (key, some (next key)) :: numbered rest (Function.update next key (next key + 1))

def consecutive (start : U64) (count : Nat) : List U64 :=
  (List.range count).map fun offset => start + BitVec.ofNat 64 offset

def noncesOf (key : Nat) (transactions : List (Nat × Option U64)) : List (Option U64) :=
  (transactions.filter fun transaction => transaction.1 = key).map Prod.snd

def nextNonce (nonces : List U64) (key : Nat) : U64 := nonces.getD key 0

def plannedTransactions (plan : SustainedPlan) (starts : List U64) : List (Nat × Option U64) :=
  numbered (tickKeys plan (List.range plan.durationSecs)) (nextNonce starts)

section Numbering

variable {next : Nat → U64}

@[simp] theorem map_fst_numbered (keys : List Nat) (next : Nat → U64) :
    (numbered keys next).map Prod.fst = keys := by
  induction keys generalizing next with
  | nil => rfl
  | cons key rest ih => simp [numbered, ih]

theorem numbered_append (first second : List Nat) (next : Nat → U64) :
    numbered (first ++ second) next = numbered first next ++ numbered second (advance first next) := by
  induction first generalizing next with
  | nil => rfl
  | cons key rest ih => simp [numbered, advance, ih]

theorem consecutive_succ (start : U64) (count : Nat) :
    consecutive start (count + 1) = start :: consecutive (start + 1) count := by
  simp only [consecutive, List.range_succ_eq_map, List.map_cons, List.map_map]
  congr 1
  · simp
  · apply List.map_congr_left
    intro offset _
    simp only [Function.comp_apply]
    rw [BitVec.add_assoc]
    congr 1
    apply BitVec.eq_of_toNat_eq
    simp [Nat.add_comm]

theorem noncesOf_numbered (keys : List Nat) (next : Nat → U64) (key : Nat) :
    noncesOf key (numbered keys next) = (consecutive (next key) (keys.count key)).map some := by
  induction keys generalizing next with
  | nil => rfl
  | cons used rest ih =>
    by_cases same : used = key
    · subst same
      have tail := ih (Function.update next used (next used + 1))
      rw [Function.update_self] at tail
      rw [List.count_cons_self, consecutive_succ, List.map_cons, ← tail]
      simp [noncesOf, numbered]
    · have tail := ih (Function.update next used (next used + 1))
      rw [Function.update_of_ne (Ne.symm same)] at tail
      rw [List.count_cons_of_ne same, ← tail]
      simp [noncesOf, numbered, same]

theorem nextNonce_set {nonces : List U64} {key : Nat} (pooled : key < nonces.length) (value : U64) :
    nextNonce (nonces.set key value) = Function.update (nextNonce nonces) key value := by
  funext other
  by_cases same : other = key
  · subst same
    simp [nextNonce, pooled]
  · rw [Function.update_of_ne same]
    simp [nextNonce, List.getD, List.getElem?_set_ne (Ne.symm same)]

end Numbering

/-!
## The loop follows the rotation
-/

section Logs

variable {log more : List (Exchange loadTestInterface)}

@[simp] theorem fired_append (first second : List (Exchange loadTestInterface)) :
    fired (first ++ second) = fired first ++ fired second := by
  simp [fired]

theorem Lasting.of_append (lasting : Lasting (log ++ more)) (requested : Requested log)
    {exchange : Exchange loadTestInterface} (later : exchange ∈ more) :
    requestSeen exchange ≠ some false := by
  rcases requested with ⟨first, member, seen⟩
  exact (List.pairwise_append.mp lasting).2.2 first member exchange later seen

theorem Requested.append (requested : Requested log) : Requested (log ++ more) := by
  rcases requested with ⟨exchange, member, seen⟩
  exact ⟨exchange, List.mem_append_left _ member, seen⟩

theorem Requested.not_undisturbed (requested : Requested log) : ¬ Undisturbed log := by
  intro undisturbed
  rcases requested with ⟨exchange, member, seen⟩
  exact (undisturbed exchange member).1 seen

end Logs

section Loop

variable {Local World : Type} {machine : Machine loadTestInterface Local World}
variable {here here' : Local} {world world' : World × List (Exchange loadTestInterface)}
variable {plan : SustainedPlan}

theorem scheduledKeyIndex_lt {tick offset : Nat} (cycle : 0 < plan.keyCycle)
    (below : offset < plan.tps) :
    scheduledKeyIndex tick offset plan < plan.tps * plan.keyCycle := by
  have batch : tick % plan.keyCycle + 1 ≤ plan.keyCycle := Nat.mod_lt tick cycle
  calc scheduledKeyIndex tick offset plan
      < (tick % plan.keyCycle) * plan.tps + plan.tps := Nat.add_lt_add_left below _
    _ = (tick % plan.keyCycle + 1) * plan.tps := by rw [Nat.add_mul, Nat.one_mul]
    _ ≤ plan.keyCycle * plan.tps := Nat.mul_le_mul_right _ batch
    _ = plan.tps * plan.keyCycle := Nat.mul_comm _ _

structure Fires (keys : List Nat) (next : Nat → U64)
    (before after : List (Exchange loadTestInterface)) (used : List Nat) : Prop where
  started : Lasting after → used <+: keys
  grown : fired after = fired before ++ numbered used next
  silenced : Lasting after → Requested before → used = []
  whole : Undisturbed after → used = keys

variable {before after : List (Exchange loadTestInterface)}

theorem Fires.append {keys others used more : List Nat} {next : Nat → U64}
    {between : List (Exchange loadTestInterface)} (first : Fires keys next before between used)
    (ended : used = keys ∨ Requested between)
    (second : Fires others (advance used next) between after more) (extended : between <+: after)
    (earlier : before <+: between) :
    Fires (keys ++ others) next before after (used ++ more) := by
  have lastingBetween : Lasting after → Lasting between := fun lasting =>
    lasting.sublist extended.sublist
  have requestedBetween : Requested before → Requested between := by
    rcases earlier with ⟨added, rfl⟩
    exact Requested.append
  constructor
  · intro lasting
    rcases ended with whole | seen
    · rw [whole]
      exact (List.prefix_append_right_inj keys).mpr (second.started lasting)
    · rw [second.silenced lasting seen, List.append_nil]
      exact (first.started (lastingBetween lasting)).trans (List.prefix_append _ _)
  · rw [second.grown, first.grown, numbered_append, List.append_assoc]
  · intro lasting requested
    rw [first.silenced (lastingBetween lasting) requested,
      second.silenced lasting (requestedBetween requested), List.append_nil]
  · intro undisturbed
    have quietBetween : Undisturbed between := fun exchange member =>
      undisturbed exchange (extended.subset member)
    rw [first.whole quietBetween, second.whole undisturbed]

theorem spawnTick_fires {tick : Nat} {offsets : List Nat} {nonces : List U64}
    {result : Except String (Option (List U64))}
    (pooled : ∀ offset ∈ offsets, scheduledKeyIndex tick offset plan < nonces.length)
    (executes :
      Executes machine.logged (spawnTick plan tick offsets (some nonces)) here world result
        here' world') :
    ∃ used left, result = .ok (some left) ∧
        left.length = nonces.length ∧
        nextNonce left = advance used (nextNonce nonces) ∧
        Fires (offsets.map fun offset => scheduledKeyIndex tick offset plan)
          (nextNonce nonces) world.2 world'.2 used ∧
        (used = (offsets.map fun offset => scheduledKeyIndex tick offset plan) ∨
          Requested world'.2) := by
  induction offsets generalizing nonces here world with
  | nil =>
    cases executes
    refine ⟨[], nonces, rfl, rfl, rfl, ⟨fun _ => List.prefix_rfl, ?_, fun _ _ => rfl, fun _ => rfl⟩, .inl rfl⟩
    exact (List.append_nil _).symm
  | cons offset rest ih =>
    rcases executes.call_cases with ⟨requested, middle, between, asked, continues⟩
    have quiet : fired between.2 = fired world.2 := by
      rw [asked, fired_append]
      exact List.append_nil _
    cases requested with
    | true =>
      cases continues
      have seen : Requested world'.2 := ⟨⟨.shutdownRequested, true⟩, by rw [asked]; simp, rfl⟩
      refine ⟨[], nonces, rfl, rfl, rfl, ⟨fun _ => List.nil_prefix, ?_, fun _ _ => rfl, ?_⟩, .inr seen⟩
      · exact quiet.trans (List.append_nil _).symm
      · intro undisturbed
        exact absurd undisturbed seen.not_undisturbed
    | false =>
      have here_pooled := pooled offset List.mem_cons_self
      have present : nonces[scheduledKeyIndex tick offset plan]? =
            some (nextNonce nonces (scheduledKeyIndex tick offset plan)) := by
        simp [nextNonce, here_pooled]
      simp only [Program.bind, Bool.false_eq_true, if_false, Program.bind_eq, takeNonce,
        present] at continues
      rcases continues.call_cases with ⟨_, _, spawned, wrote, ticking⟩
      have rest_pooled : ∀ offset' ∈ rest, scheduledKeyIndex tick offset' plan <
            (nonces.set (scheduledKeyIndex tick offset plan)
              (nextNonce nonces (scheduledKeyIndex tick offset plan) + 1)).length := by
        intro offset' member
        rw [List.length_set]
        exact pooled offset' (List.mem_cons_of_mem _ member)
      rcases ih rest_pooled ticking with
        ⟨used, left, returned, counted, reads, fires, ended⟩
      rw [nextNonce_set here_pooled] at reads fires
      rcases ticking.log_grows with ⟨added, extended⟩
      refine ⟨scheduledKeyIndex tick offset plan :: used, left, returned, ?_, reads,
        ⟨?_, ?_, ?_, ?_⟩, ?_⟩
      · rw [counted, List.length_set]
      · intro lasting
        exact (List.prefix_cons_inj _).mpr (fires.started lasting)
      · rw [fires.grown, wrote, fired_append, quiet]
        simp [fired, firedBy, numbered]
      · intro lasting already
        rw [extended, wrote, asked, List.append_assoc, List.append_assoc] at lasting
        have denied := lasting.of_append already (List.mem_append_left _ List.mem_cons_self)
        exact absurd rfl denied
      · intro undisturbed
        rw [fires.whole undisturbed, List.map_cons]
      · rcases ended with whole | seen
        · exact .inl (by rw [whole, List.map_cons])
        · exact .inr seen

theorem Fires.afterTick {keys used : List Nat} {next : Nat → U64} {ready : Bool}
    (fires : Fires keys next (before ++ [⟨.tick, ready⟩]) after used) :
    Fires keys next before after used := by
  constructor
  · exact fires.started
  · rw [fires.grown, fired_append]
    simp [fired, firedBy]
  · intro lasting requested
    exact fires.silenced lasting requested.append
  · exact fires.whole

theorem sendTicks_fires {left : Nat} {nonces : List U64} {result : Except String Unit}
    (cycle : 0 < plan.keyCycle) (pool : nonces.length = plan.tps * plan.keyCycle)
    (within : left ≤ plan.durationSecs)
    (executes :
      Executes machine.logged (sendTicks plan left (some nonces)) here world result here' world') :
    ∃ used, Fires (tickKeys plan (List.range' (plan.durationSecs - left) left)) (nextNonce nonces)
        world.2 world'.2 used := by
  induction left generalizing nonces here world with
  | zero =>
    rcases executes.call_cases with ⟨_, _, between, asked, continues⟩
    cases continues
    refine ⟨[], fun _ => List.prefix_rfl, ?_, fun _ _ => rfl, fun _ => rfl⟩
    rw [asked, fired_append]
    rfl
  | succ left ih =>
    rcases executes.call_cases with ⟨ready, middle, between, asked, continues⟩
    have quiet : fired between.2 = fired world.2 := by
      rw [asked, fired_append]
      exact List.append_nil _
    cases ready with
    | false =>
      cases continues
      refine ⟨[], fun _ => List.nil_prefix, ?_, fun _ _ => rfl, ?_⟩
      · exact quiet.trans (List.append_nil _).symm
      intro undisturbed
      have cut := (undisturbed ⟨.tick, false⟩ (by rw [asked]; simp)).2
      cases cut
    | true =>
      have next : plan.durationSecs - (left + 1) + 1 = plan.durationSecs - left := by omega
      rw [List.range'_succ, tickKeys, List.flatMap_cons, next]
      have pooled : ∀ offset ∈ List.range plan.tps,
            scheduledKeyIndex (plan.durationSecs - (left + 1)) offset plan < nonces.length := by
        intro offset member
        rw [pool]
        exact scheduledKeyIndex_lt cycle (List.mem_range.mp member)
      simp only [Program.bind, if_true, Program.bind_eq] at continues
      rcases continues.bind_cases with ⟨returned, _, ticked, ticking, later⟩ | ⟨_, _, ticking⟩
      · rcases spawnTick_fires pooled ticking with
          ⟨first, remaining, same, counted, reads, fires, ended⟩
        cases same
        rcases ih (counted.trans pool) (Nat.le_of_succ_le within) later with
          ⟨others, following⟩
        rcases later.log_grows with ⟨added, extended⟩
        rcases ticking.log_grows with ⟨batch, ticks⟩
        rw [reads] at following
        have both := fires.append ended following ⟨added, extended.symm⟩ ⟨batch, ticks.symm⟩
        rw [asked] at both
        exact ⟨first ++ others, both.afterTick⟩
      · rcases spawnTick_fires pooled ticking with ⟨_, _, same, _⟩
        cases same

theorem fired_eq_nil {log : List (Exchange loadTestInterface)}
    (nothing : ∀ exchange ∈ log, StartsNothing exchange.1) :
    fired log = [] := by
  apply List.filterMap_eq_nil_iff.mpr
  rintro ⟨call, reply⟩ member
  cases call with
  | spawn keyIndex nonce => exact absurd rfl (nothing _ member keyIndex nonce)
  | _ => rfl

theorem runSustainedLoop_fires {starts : List U64} {result : Except String (List TxMetrics)}
    (cycle : 0 < plan.keyCycle) (pool : starts.length = plan.tps * plan.keyCycle)
    (executes :
      Executes machine.logged (runSustainedLoop plan (some starts)) here world result here' world')
    (fresh : world.2 = []) :
    (Undisturbed world'.2 → fired world'.2 = plannedTransactions plan starts) ∧
      (Lasting world'.2 → fired world'.2 <+: plannedTransactions plan starts) := by
  rcases runSustainedLoop_sends executes with ⟨_, _, between, added, sending, extended, nothing⟩
  rcases sendTicks_fires cycle pool le_rfl sending with ⟨used, fires⟩
  rw [Nat.sub_self, ← List.range_eq_range'] at fires
  have grown : fired world'.2 = numbered used (nextNonce starts) := by
    rw [extended, fired_append, fired_eq_nil nothing, fires.grown, fresh]
    simp [fired]
  rw [grown]
  constructor
  · intro undisturbed
    have quiet : Undisturbed between.2 := fun exchange member =>
      undisturbed exchange (by rw [extended]; exact List.mem_append_left _ member)
    rw [fires.whole quiet, plannedTransactions]
  · intro lasting
    have earlier : Lasting between.2 := by
      rw [extended] at lasting
      exact (List.pairwise_append.mp lasting).1
    rcases fires.started earlier with ⟨rest, whole⟩
    rw [plannedTransactions, ← whole, numbered_append]
    exact List.prefix_append _ _

end Loop

/-!
## The rotation is fair
-/

section Rotation

variable {plan : SustainedPlan}

theorem toNat_consecutive {start : U64} {count : Nat} (fits : start.toNat + count ≤ 2 ^ 64) :
    (consecutive start count).map BitVec.toNat = List.range' start.toNat count := by
  rw [consecutive, List.map_map, List.range'_eq_map_range]
  apply List.map_congr_left
  intro offset member
  have small := List.mem_range.mp member
  simp only [Function.comp_apply, BitVec.toNat_add, BitVec.toNat_ofNat]
  omega

theorem length_tickKeys (ticks : List Nat) :
    (tickKeys plan ticks).length = plan.tps * ticks.length := by
  induction ticks with
  | nil => rfl
  | cons tick rest ih =>
    have split : tickKeys plan (tick :: rest) =
          (List.range plan.tps).map (fun offset => scheduledKeyIndex tick offset plan) ++
            tickKeys plan rest := rfl
    rw [split, List.length_append, ih, List.length_map, List.length_range,
      List.length_cons, Nat.mul_add, Nat.mul_one, Nat.add_comm]

theorem nodup_tickKeys (tps : 0 < plan.tps) (first : Nat) :
    (tickKeys plan (List.range' first plan.keyCycle)).Nodup := by
  apply List.nodup_iff_count_le_one.mpr
  intro key
  rw [count_tickKeys tps]
  have residues :
      ((List.range plan.keyCycle).map fun offset => (first + offset) % plan.keyCycle).Nodup := by
    apply List.Nodup.map_on _ List.nodup_range
    intro one member other memberOther same
    have small := List.mem_range.mp member
    have smallOther := List.mem_range.mp memberOther
    have cancelled : one % plan.keyCycle = other % plan.keyCycle :=
      Nat.ModEq.add_left_cancel' first same
    rwa [Nat.mod_eq_of_lt small, Nat.mod_eq_of_lt smallOther] at cancelled
  rw [List.range'_eq_map_range, List.countP_map]
  have once := List.nodup_iff_count_le_one.mp residues (key / plan.tps)
  rw [List.count, List.countP_map] at once
  apply le_trans (le_of_eq _) once
  apply List.countP_congr
  intro offset _
  simp

/-- The keys take turns, and each one counts its own nonces. -/
structure Rotates (sizing : RunSizing) (plan : SustainedPlan) (starts : List U64)
    (transactions : List (Nat × Option U64)) : Prop where
  total : transactions.length = plan.tps * plan.durationSecs
  pooled : ∀ transaction ∈ transactions, transaction.1 < sizing.numKeys
  bounded : ∀ key < sizing.numKeys,
      (transactions.map Prod.fst).count key ≤ sizing.transactionsPerKey
  fair : ∀ key < sizing.numKeys, ∀ other < sizing.numKeys,
      (transactions.map Prod.fst).count key ≤ (transactions.map Prod.fst).count other + 1
  ticking : transactions.map Prod.fst = tickKeys plan (List.range plan.durationSecs)
  spaced : ∀ first, (tickKeys plan (List.range' first plan.keyCycle)).Nodup
  counting : ∀ key < sizing.numKeys, ∃ start uses, starts[key]? = some start ∧
        (transactions.map Prod.fst).count key = uses ∧
        noncesOf key transactions = (consecutive start uses).map some ∧
        (start.toNat + uses ≤ 2 ^ 64 →
          (consecutive start uses).map BitVec.toNat = List.range' start.toNat uses)

theorem plannedTransactions_rotates {sizing : RunSizing} {starts : List U64} (shape : sizing.Shape)
    (sustained : sizing.mode = .sustained plan) (pool : starts.length = sizing.numKeys) :
    Rotates sizing plan starts (plannedTransactions plan starts) := by
  have keys : (plannedTransactions plan starts).map Prod.fst =
        tickKeys plan (List.range plan.durationSecs) := map_fst_numbered _ _
  have bounded : ∀ key < sizing.numKeys, sizing.uses key ≤ sizing.transactionsPerKey :=
    fun _ pooled => shape.uses_le pooled
  cases shape with
  | burst positive => cases sustained
  | sustained tps durationSecs keyCycle =>
    cases sustained
    refine
      { total := ?_, pooled := ?_, bounded := ?_, fair := ?_, ticking := keys,
        spaced := nodup_tickKeys tps, counting := ?_ }
    · rw [← List.length_map, keys, length_tickKeys, List.length_range]
    · intro transaction member
      have used : transaction.1 ∈ (plannedTransactions plan starts).map Prod.fst :=
        List.mem_map_of_mem member
      rw [keys] at used
      rcases List.mem_flatMap.mp used with ⟨tick, _, batch⟩
      rcases List.mem_map.mp batch with ⟨offset, below, same⟩
      rw [← same]
      exact scheduledKeyIndex_lt keyCycle (List.mem_range.mp below)
    · intro key pooled
      rw [keys]
      exact bounded key pooled
    · intro key pooled other otherPooled
      rw [keys, count_schedule tps keyCycle pooled, count_schedule tps keyCycle otherPooled]
      split <;> split <;> omega
    · intro key pooled
      have present : key < starts.length := by rw [pool]; exact pooled
      refine ⟨starts[key], _, List.getElem?_eq_getElem present, rfl, ?_, toNat_consecutive⟩
      rw [keys, plannedTransactions, noncesOf_numbered]
      simp [nextNonce, present]

/--
A sustained run rotates through its keys: without a shutdown it fires all transactions
of its plan, and a shutdown leaves the first ones of them.  The run comes to an end
wherever its calls are answered.
-/
theorem sustained_runs_rotate_through_their_keys
    {sizing : RunSizing}
    {starts : List U64}
    (accepted : sizing.Accepted)
    (sustained : sizing.mode = .sustained plan)
    (pool : starts.length = sizing.numKeys) :
    Rotates sizing plan starts (plannedTransactions plan starts) ∧
      ∀ {Local World : Type} (machine : Machine loadTestInterface Local World) (here : Local)
        (world : World),
        (∀ result here' world',
          Executes machine.logged (runSustainedLoop plan (some starts)) here (world, [])
              result here' world' →
            (Undisturbed world'.2 → fired world'.2 = plannedTransactions plan starts) ∧
              (Lasting world'.2 → fired world'.2 <+: plannedTransactions plan starts)) ∧
        (machine.Answering → ∃ result here' world',
            Executes machine.logged (runSustainedLoop plan (some starts)) here (world, [])
              result here' world') := by
  have shape := accepted.shape
  have rotates := plannedTransactions_rotates shape sustained pool
  refine ⟨rotates, fun machine here world => ⟨?_, ?_⟩⟩
  · intro result here' world' executes
    cases shape with
    | burst positive => cases sustained
    | sustained tps durationSecs keyCycle =>
      cases sustained
      exact runSustainedLoop_fires keyCycle pool executes rfl
  · intro answering
    exact Executes.exists_of_answering answering.logged _ here (world, [])

/-- Two keys a second, a cycle of two seconds and three seconds: six transactions. -/
theorem three_seconds_of_two_keys_rotate :
    Rotates ⟨.sustained ⟨2, 3, 2⟩, 4, 6⟩ ⟨2, 3, 2⟩ [5, 0, 9, 1]
        [(0, some 5), (1, some 0), (2, some 9), (3, some 1), (0, some 6), (1, some 1)] :=
  (@sustained_runs_rotate_through_their_keys ⟨2, 3, 2⟩ ⟨.sustained ⟨2, 3, 2⟩, 4, 6⟩ [5, 0, 9, 1]
    ⟨0, some 2, some 3, 2, by decide⟩ rfl rfl).1

end Rotation

end Axe.LoadTesting

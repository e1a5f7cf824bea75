import Mathlib.Tactic.IntervalCases
import Axe.FundingContracts

namespace Axe.LoadTesting

open Hardened (Address)

/-!
# Funding against the schedule

What the preparation of a route leaves on each key, compared with what the schedule
takes from it.
-/

/-!
## Exact amounts
-/

/-- The rounds that the funding of a key pays for. -/
def paidRounds (sizing : RunSizing) : Nat :=
  if sizing.isBurst then 1 else sizing.transactionsPerKey + sizing.transactionsPerKey / 5 + 1

/-- The native coin that a route gives to a key, in unbounded numbers. -/
def Route.exactExtra (sizing : RunSizing) (gasValue : Nat) (node : SourceNode) : Route → Nat
  | .evm | .sol | .solWithData | .stellar => gasValue * 2 * paidRounds sizing
  | .xrpl => (node.gasPrice.getD 1000000000 * itsGasLimit + gasValue * 2) * paidRounds sizing * 2
  | .sui => gasValue * 2 * 2

/-- The rounds and the funds of a key fit their machine types. -/
structure ExactArithmetic (route : Route) (sizing : RunSizing) (gasValue : Nat)
    (node : SourceNode) : Prop where
  rounds : sizing.transactionsPerKey + sizing.transactionsPerKey / 5 + 1 < 2 ^ 64
  funds : targetWeiPerKey + route.exactExtra sizing gasValue node < 2 ^ 128

theorem saturatingMul_eq {width first second : Nat} (fits : first * second < 2 ^ width) :
    saturatingMul width first second = first * second :=
  min_eq_left (Nat.le_sub_one_of_lt fits)

section Exactness

variable {route : Route} {sizing : RunSizing} {gasValue : Nat} {node : SourceNode}

theorem paidRounds_pos (sizing : RunSizing) : 0 < paidRounds sizing := by
  unfold paidRounds
  split
  · exact Nat.one_pos
  · exact Nat.succ_pos _

theorem gasExtraPerKey_eq {width : Nat}
    (rounds : sizing.transactionsPerKey + sizing.transactionsPerKey / 5 + 1 < 2 ^ 64)
    (fits : gasValue * 2 * paidRounds sizing < 2 ^ width) :
    gasExtraPerKey width sizing gasValue = gasValue * 2 * paidRounds sizing := by
  have doubled : gasValue * 2 < 2 ^ width :=
    lt_of_le_of_lt (Nat.le_mul_of_pos_right _ (paidRounds_pos sizing)) fits
  by_cases burst : sizing.isBurst
  · simp [gasExtraPerKey, paidRounds, burst, saturatingMul_eq doubled]
  · simp only [paidRounds, burst, Bool.false_eq_true, if_false] at fits ⊢
    rw [gasExtraPerKey, saturatingMul_eq doubled, if_neg (by simpa using burst), bufferedRounds,
      Nat.mod_eq_of_lt rounds, saturatingMul_eq fits]

theorem xrplGasExtraPerKey_eq {gasPrice : Nat}
    (rounds : sizing.transactionsPerKey + sizing.transactionsPerKey / 5 + 1 < 2 ^ 64)
    (fits : (gasPrice * itsGasLimit + gasValue * 2) * paidRounds sizing * 2 < 2 ^ 128) :
    xrplGasExtraPerKey sizing gasValue gasPrice =
      (gasPrice * itsGasLimit + gasValue * 2) * paidRounds sizing * 2 := by
  have product : (gasPrice * itsGasLimit + gasValue * 2) * paidRounds sizing < 2 ^ 128 :=
    lt_of_le_of_lt (Nat.le_mul_of_pos_right _ Nat.two_pos) fits
  have sum : gasPrice * itsGasLimit + gasValue * 2 < 2 ^ 128 :=
    lt_of_le_of_lt (Nat.le_mul_of_pos_right _ (paidRounds_pos sizing)) product
  have price : gasPrice * itsGasLimit < 2 ^ 128 := lt_of_le_of_lt (Nat.le_add_right _ _) sum
  have doubled : gasValue * 2 < 2 ^ 128 := lt_of_le_of_lt (Nat.le_add_left _ _) sum
  have counted : (if sizing.isBurst then 1 else bufferedRounds sizing) = paidRounds sizing := by
    simp only [paidRounds, bufferedRounds, Nat.mod_eq_of_lt rounds]
  rw [xrplGasExtraPerKey, saturatingMul_eq price, saturatingMul_eq doubled,
    Nat.mod_eq_of_lt sum, counted, saturatingMul_eq product, saturatingMul_eq fits]

theorem suiGasExtraPerKey_eq (fits : gasValue * 2 * 2 < 2 ^ 128) :
    suiGasExtraPerKey gasValue = gasValue * 2 * 2 := by
  have doubled : gasValue * 2 < 2 ^ 128 :=
    lt_of_le_of_lt (Nat.le_mul_of_pos_right _ Nat.two_pos) fits
  rw [suiGasExtraPerKey, saturatingMul_eq doubled, saturatingMul_eq fits]

theorem ExactArithmetic.extra_eq (exact : ExactArithmetic route sizing gasValue node) :
    route.extra sizing gasValue node = route.exactExtra sizing gasValue node := by
  have fits : route.exactExtra sizing gasValue node < 2 ^ 128 :=
    lt_of_le_of_lt (Nat.le_add_left _ _) exact.funds
  have wider : (2 : Nat) ^ 128 ≤ 2 ^ 256 := Nat.pow_le_pow_right Nat.two_pos (by decide)
  cases route with
  | evm => exact gasExtraPerKey_eq exact.rounds (lt_of_lt_of_le fits wider)
  | sol => exact gasExtraPerKey_eq exact.rounds (lt_of_lt_of_le fits wider)
  | solWithData => exact gasExtraPerKey_eq exact.rounds fits
  | stellar => exact gasExtraPerKey_eq exact.rounds fits
  | xrpl => exact xrplGasExtraPerKey_eq exact.rounds fits
  | sui => exact suiGasExtraPerKey_eq fits

theorem ExactArithmetic.fits (exact : ExactArithmetic route sizing gasValue node) :
    targetWeiPerKey + route.extra sizing gasValue node < 2 ^ 128 := by
  rw [exact.extra_eq]
  exact exact.funds

end Exactness

/-!
## Preparations that find nothing to do
-/

/-- Every account already holds an amount of both, and every allowance is unlimited. -/
def Ledger.even (native token : Nat) : Ledger where
  native := fun _ => native
  fees := fun _ => 0
  token := fun _ => token
  allowance := fun _ => 2 ^ 256 - 1

section Idle

variable {main : Address} {node : SourceNode} {here : Unit} {ledger : Ledger}

theorem need_of {Value : Type} (op : FundingCall) {unpack : op.Reply → Option Value}
    {error : FundingError} {value : Value} (reply : op.Reply)
    (answered : fundingAnswers main node ledger op reply) (found : unpack reply = some value)
    (silent : fundingReacts main op reply ledger = ledger) :
    Executes (fundingMachine main node) (need op unpack error) here ledger (.ok value)
      () ledger := by
  refine .call reply .refl answered ?_
  have unpacked : Program.orFail (unpack reply) error = (.done value : Preparing Value) := by
    rw [found]
    rfl
  have same : (fundingMachine main node).react op reply here ledger = ((), ledger) :=
    congrArg (Prod.mk ()) silent
  rw [unpacked, same]
  exact .done

theorem keysToFund_idle {minNeeded target : Nat} {keys : List (Address × Nat)}
    (enough : ∀ account, minNeeded ≤ ledger.native account)
    (narrow : ∀ account, ledger.native account < 2 ^ 128) :
    Executes (fundingMachine main node) (keysToFund main minNeeded target keys) here ledger
      (.ok []) () ledger := by
  induction keys generalizing here with
  | nil => exact .done
  | cons key rest ih =>
    rcases key with ⟨address, index⟩
    by_cases own : address = main
    · simp only [keysToFund, own, if_true]
      exact ih
    · simp only [keysToFund, own, if_false, Program.bind_eq]
      have reading : Executes (fundingMachine main node)
            (need (.balance address) id (.unreadBalance index)) here ledger
            (.ok (ledger.native address)) () ledger :=
        need_of (.balance address) (some (ledger.native address))
          (fun _ found => (Option.some.inj found).symm) rfl rfl
      apply reading.andThen
      apply Executes.andThen (Executes.ensure_of (narrow address))
      apply Executes.andThen ih
      rw [if_neg (not_lt.mpr (enough address))]
      exact .done

variable {derived : List Address}

theorem ensureFundedEvmWithExtra_idle {extra : Nat} (fits : targetWeiPerKey + extra < 2 ^ 128)
    (enough : ∀ account, minWeiPerKey + extra ≤ ledger.native account)
    (narrow : ∀ account, ledger.native account < 2 ^ 128) :
    Executes (fundingMachine main node) (ensureFundedEvmWithExtra main derived extra) here
      ledger (.ok ()) () ledger := by
  have ordered : minWeiPerKey ≤ targetWeiPerKey := by decide
  have minFits : (minWeiPerKey + extra) % 2 ^ 128 = minWeiPerKey + extra :=
    Nat.mod_eq_of_lt (lt_of_le_of_lt (Nat.add_le_add_right ordered _) fits)
  simp only [ensureFundedEvmWithExtra, Program.bind_eq, minFits]
  apply Executes.andThen (Executes.ensure_of (lt_of_le_of_lt (Nat.le_add_left _ _) fits))
  apply Executes.andThen (keysToFund_idle enough narrow)
  exact .done

theorem each_idle {Item : Type} {body : Item → Preparing Unit} {items : List Item}
    (idle : ∀ item, Executes (fundingMachine main node) (body item) () ledger (.ok ()) () ledger) :
    Executes (fundingMachine main node) (Program.each body items) () ledger (.ok ()) ()
      ledger := by
  induction items with
  | nil => exact .done
  | cons item rest ih => exact (idle item).andThen ih

theorem distributeTokens_idle {amountPerKey : Nat}
    (enough : ∀ account, amountPerKey ≤ ledger.token account) :
    Executes (fundingMachine main node) (distributeTokens main derived amountPerKey) () ledger
      (.ok ()) () ledger := by
  apply each_idle
  intro key
  by_cases own : key.1 = main
  · simp only [distributeToKey, own, if_true]
    exact .done
  · simp only [distributeToKey, own, if_false]
    refine .call (some (ledger.token key.1)) .refl (fun _ found => (Option.some.inj found).symm) ?_
    simp only [Option.getD_some, enough key.1, if_true]
    exact .done

theorem approveItsForKeys_idle {amountPerKey : Nat}
    (enough : ∀ account, saturatingMul 256 amountPerKey 2 ≤ ledger.allowance account) :
    Executes (fundingMachine main node) (approveItsForKeys derived amountPerKey) () ledger
      (.ok ()) () ledger := by
  simp only [approveItsForKeys, Program.bind_eq]
  have reading : Executes (fundingMachine main node) (need .tokenManager id .unknownTokenManager) ()
        ledger (.ok ()) () ledger :=
    need_of .tokenManager (some ()) trivial rfl rfl
  apply reading.andThen
  apply each_idle
  intro key
  refine .call (some (ledger.allowance key.1)) .refl
    (fun _ found => (Option.some.inj found).symm) ?_
  simp only [Option.getD_some, enough key.1, if_true]
  exact .done

end Idle

/-!
## The schedule is covered
-/

/-- How often an account sends in a run. -/
def usesOf (sizing : RunSizing) (derived : List Address) (address : Address) : Nat :=
  sizing.schedule.countP fun key => derived[key]? = some address

/-- Every key holds what its transfers take: the token, and the value attached to each. -/
def CoversSchedule (sizing : RunSizing) (gasValue : Nat) (prepared : Prepared)
    (ledger : Ledger) : Prop :=
  ∀ address ∈ prepared.derived,
    usesOf sizing prepared.derived address * prepared.amountPerTx ≤ ledger.token address ∧
      usesOf sizing prepared.derived address * (2 * gasValue) ≤ ledger.funds address

/-- The route funds every round of a key. -/
def Route.PaysRounds (sizing : RunSizing) (gasValue : Nat) : Route → Prop
  | .evm | .sol | .solWithData | .stellar => sizing.transactionsPerKey ≤ 100
  | .xrpl => True
  | .sui => sizing.transactionsPerKey * (2 * gasValue) ≤ minWeiPerKey + 4 * gasValue

instance decidablePaysRounds (sizing : RunSizing) (gasValue : Nat) :
    (route : Route) → Decidable (route.PaysRounds sizing gasValue)
  | .evm | .sol | .solWithData | .stellar =>
    inferInstanceAs (Decidable (sizing.transactionsPerKey ≤ 100))
  | .xrpl => inferInstanceAs (Decidable True)
  | .sui =>
    inferInstanceAs (Decidable
      (sizing.transactionsPerKey * (2 * gasValue) ≤ minWeiPerKey + 4 * gasValue))

section Covering

variable {route : Route} {sizing : RunSizing} {gasValue : Nat} {node : SourceNode}
variable {wallets : Wallets} {sourceAxelarId : String} {derived : List Address}

theorem usesOf_eq {key : Nat} {address : Address} (nodup : derived.Nodup)
    (found : derived[key]? = some address) :
    usesOf sizing derived address = sizing.uses key := by
  unfold usesOf RunSizing.uses List.count
  apply List.countP_congr
  intro other _
  simp only [decide_eq_true_eq, beq_iff_eq]
  constructor
  · intro same
    have below : key < derived.length := (List.getElem?_eq_some_iff.mp found).1
    exact ((List.getElem?_inj below nodup).mp (found.trans same.symm)).symm
  · rintro rfl
    exact found

theorem standard_rescale {decimals : Nat} (lower : 2 ≤ decimals) (upper : decimals ≤ 18) :
    TokenAmounts.standard.rescale decimals = ⟨10 ^ (decimals - 2), 10 ^ (decimals - 2) * 100⟩ := by
  interval_cases decimals <;> rfl

theorem withData_rescale {decimals : Nat} (upper : decimals ≤ 18) :
    TokenAmounts.withData.rescale decimals = ⟨10 ^ decimals, 10 ^ decimals * 100⟩ := by
  interval_cases decimals <;> rfl

theorem transactionsPerKey_le_paidRounds (sizing : RunSizing) :
    sizing.transactionsPerKey ≤ paidRounds sizing := by
  rcases sizing with ⟨burst | plan, numKeys, totalExpected⟩
  · exact le_rfl
  · simp only [paidRounds, RunSizing.isBurst, Bool.false_eq_true, if_false]
    omega

theorem amounts_cover (exact : ExactArithmetic route sizing gasValue node)
    (lower : 2 ≤ node.decimals) (upper : node.decimals ≤ 18)
    (pays : route.PaysRounds sizing gasValue) :
    sizing.transactionsPerKey * (route.amounts sizing node).perTx ≤
      (route.amounts sizing node).perKey := by
  cases route with
  | evm | sol | stellar =>
    simp only [Route.amounts, standard_rescale lower upper]
    rw [Nat.mul_comm]
    exact Nat.mul_le_mul_left _ pays
  | solWithData =>
    simp only [Route.amounts, withData_rescale upper]
    rw [Nat.mul_comm]
    exact Nat.mul_le_mul_left _ pays
  | xrpl =>
    rcases sizing with ⟨burst | plan, numKeys, totalExpected⟩
    · simp [Route.amounts, xrplAmountPerKey, RunSizing.isBurst, RunSizing.transactionsPerKey]
    · have rounds := exact.rounds
      simp only [Route.amounts, xrplAmountPerKey, RunSizing.isBurst, Bool.false_eq_true, if_false]
      rw [Nat.mod_eq_of_lt (by omega), Nat.mul_comm]
      exact Nat.mul_le_mul_left _ (Nat.le_succ _)
  | sui => exact (Nat.mul_one _).le

theorem extra_covers (exact : ExactArithmetic route sizing gasValue node)
    (pays : route.PaysRounds sizing gasValue) :
    sizing.transactionsPerKey * (2 * gasValue) ≤
      minWeiPerKey + route.extra sizing gasValue node := by
  have rounds : sizing.transactionsPerKey * (2 * gasValue) ≤ gasValue * 2 * paidRounds sizing := by
    rw [Nat.mul_comm gasValue 2, Nat.mul_comm (2 * gasValue)]
    exact Nat.mul_le_mul_right _ (transactionsPerKey_le_paidRounds sizing)
  rw [exact.extra_eq]
  cases route with
  | evm | sol | solWithData | stellar => exact rounds.trans (Nat.le_add_left _ _)
  | xrpl =>
    have share : gasValue * 2 * paidRounds sizing ≤
          (node.gasPrice.getD 1000000000 * itsGasLimit + gasValue * 2) * paidRounds sizing * 2 :=
      calc
        gasValue * 2 * paidRounds sizing
          ≤ (node.gasPrice.getD 1000000000 * itsGasLimit + gasValue * 2) * paidRounds sizing :=
            Nat.mul_le_mul_right _ (Nat.le_add_left _ _)
        _ ≤ _ := Nat.le_mul_of_pos_right _ Nat.two_pos
    exact (rounds.trans share).trans (Nat.le_add_left _ _)
  | sui =>
    have pays : sizing.transactionsPerKey * (2 * gasValue) ≤ minWeiPerKey + 4 * gasValue := pays
    simp only [Route.exactExtra]
    omega

theorem deriveAndFundSigners_idle {extra amount : Nat} (fits : targetWeiPerKey + extra < 2 ^ 128)
    (derives : wallets.deriveEvmSigners sizing.numKeys = some derived) :
    Executes (fundingMachine wallets.main node) (deriveAndFundSigners wallets sizing extra) ()
      (.even (minWeiPerKey + extra) amount) (.ok derived) ()
      (.even (minWeiPerKey + extra) amount) := by
  have ordered : minWeiPerKey ≤ targetWeiPerKey := by decide
  have narrow : minWeiPerKey + extra < 2 ^ 128 :=
    lt_of_le_of_lt (Nat.add_le_add_right ordered _) fits
  simp only [deriveAndFundSigners, Program.bind_eq, derives, Program.orFail, Program.bind]
  apply Executes.andThen (ensureFundedEvmWithExtra_idle fits (fun _ => le_rfl) (fun _ => narrow))
  exact .done

theorem scaled_idle {Value : Type} {amounts : TokenAmounts} {extra : Nat} {value : Value}
    {ledger : Ledger} {later : List Address → TokenAmounts → Preparing Value}
    (fits : targetWeiPerKey + extra < 2 ^ 128)
    (derives : wallets.deriveEvmSigners sizing.numKeys = some derived)
    (even : ledger = .even (minWeiPerKey + extra) (amounts.rescale node.decimals).perKey)
    (rest : Executes (fundingMachine wallets.main node)
        (later derived (amounts.rescale node.decimals)) () ledger (.ok value) () ledger) :
    Executes (fundingMachine wallets.main node)
      ((rescaleSizingForDecimals amounts).bind fun amounts =>
        (deriveAndFundSigners wallets sizing extra).bind fun keys =>
          (distributeTokens wallets.main keys amounts.perKey).bind fun _ => later keys amounts)
      () ledger (.ok value) () ledger := by
  have reading : Executes (fundingMachine wallets.main node) (need .decimals id .unreadDecimals) ()
        ledger (.ok node.decimals) () ledger :=
    need_of .decimals (some node.decimals) (fun _ found => (Option.some.inj found).symm) rfl rfl
  have scaling :
      Executes (fundingMachine wallets.main node) (rescaleSizingForDecimals amounts) () ledger
        (.ok (amounts.rescale node.decimals)) () ledger := by
    simp only [rescaleSizingForDecimals, Program.bind_eq]
    exact reading.andThen .done
  apply scaling.andThen
  subst even
  apply (deriveAndFundSigners_idle fits derives).andThen
  exact (distributeTokens_idle fun _ => le_rfl).andThen rest

theorem prepare_idle (exact : ExactArithmetic route sizing gasValue node) (other : route ≠ .xrpl)
    (derives : wallets.deriveEvmSigners sizing.numKeys = some derived)
    (foreign : (route = .evm ∨ route = .sol) → sourceAxelarId ≠ "hedera") :
    Executes (fundingMachine wallets.main node)
      (prepare wallets sourceAxelarId sizing gasValue route) ()
      (.even (minWeiPerKey + route.extra sizing gasValue node) (route.amounts sizing node).perKey)
      (.ok ⟨derived, (route.amounts sizing node).perTx⟩) ()
      (.even (minWeiPerKey + route.extra sizing gasValue node)
        (route.amounts sizing node).perKey) := by
  have fits := exact.fits
  cases route with
  | evm =>
    simp only [Route.amounts, Route.extra] at fits ⊢
    have named := foreign (.inl rfl)
    simp only [prepare, prepareEvm, deriveAndFundKeys, named, if_false, Program.bind_eq]
    exact scaled_idle fits derives rfl .done
  | sol =>
    simp only [Route.amounts, Route.extra] at fits ⊢
    have named := foreign (.inr rfl)
    simp only [prepare, prepareSol, prepareEvm, deriveAndFundKeys, named, if_false, Program.bind_eq]
    exact scaled_idle fits derives rfl .done
  | solWithData =>
    simp only [Route.amounts, Route.extra] at fits ⊢
    simp only [prepare, prepareSolWithData, Program.bind_eq]
    apply scaled_idle fits derives rfl
    exact (approveItsForKeys_idle fun _ => min_le_right _ _).andThen .done
  | stellar =>
    simp only [Route.amounts, Route.extra] at fits ⊢
    simp only [prepare, prepareStellar, Program.bind_eq]
    exact scaled_idle fits derives rfl .done
  | xrpl => exact absurd rfl other
  | sui =>
    simp only [Route.amounts, Route.extra] at fits ⊢
    simp only [prepare, prepareSui, Program.bind_eq]
    apply (deriveAndFundSigners_idle fits derives).andThen
    exact (distributeTokens_idle fun _ => le_rfl).andThen .done

theorem pays_of_covered (exact : ExactArithmetic route sizing gasValue node)
    (lower : 2 ≤ node.decimals) (upper : node.decimals ≤ 18)
    (token : sizing.transactionsPerKey * (route.amounts sizing node).perTx ≤
        (route.amounts sizing node).perKey)
    (native : sizing.transactionsPerKey * (2 * gasValue) ≤
        minWeiPerKey + route.extra sizing gasValue node) :
    route.PaysRounds sizing gasValue := by
  cases route with
  | evm | sol | stellar =>
    simp only [Route.amounts, standard_rescale lower upper] at token
    rw [Nat.mul_comm] at token
    exact Nat.le_of_mul_le_mul_left token (Nat.pow_pos (by decide))
  | solWithData =>
    simp only [Route.amounts, withData_rescale upper] at token
    rw [Nat.mul_comm] at token
    exact Nat.le_of_mul_le_mul_left token (Nat.pow_pos (by decide))
  | xrpl => trivial
  | sui =>
    rw [exact.extra_eq] at native
    simp only [Route.exactExtra] at native
    simp only [Route.PaysRounds]
    omega

theorem exists_uncovered (shape : sizing.Shape) (lower : 2 ≤ node.decimals)
    (upper : node.decimals ≤ 18) (exact : ExactArithmetic route sizing gasValue node)
    (derives : derivedKeys wallets sourceAxelarId sizing route = some derived)
    (several : 1 < derived.dedup.length) (unpaid : ¬ route.PaysRounds sizing gasValue) :
    ∃ start prepared finish, Executes (fundingMachine wallets.main node)
        (prepare wallets sourceAxelarId sizing gasValue route) () start (.ok prepared) ()
        finish ∧
      ¬ CoversSchedule sizing gasValue prepared finish := by
  rcases derives_of_several derives several with ⟨derives, foreign⟩
  have pooled := pooled_of_deriveEvmSigners derives several
  have other : route ≠ .xrpl := by
    rintro rfl
    exact unpaid trivial
  -- Every account holds just what the route asks for, so nothing is topped up.
  refine ⟨_, _, _, prepare_idle exact other derives foreign, ?_⟩
  intro covered
  have first : 0 < derived.length := by
    rw [pooled.count]
    exact shape.numKeys_pos
  have found : derived[0]? = some derived[0] := List.getElem?_eq_getElem first
  have held := covered derived[0] (List.getElem_mem first)
  rw [usesOf_eq pooled.nodup found, shape.uses_first] at held
  have native : sizing.transactionsPerKey * (2 * gasValue) ≤
        minWeiPerKey + route.extra sizing gasValue node := by
    simpa [Ledger.funds, Ledger.even] using held.2
  exact unpaid (pays_of_covered exact lower upper held.1 native)

/--
On every route the keys hold what the schedule takes from them, whatever the wallets
held before, exactly when the amounts of the route pay for all rounds of a key.
-/
theorem funding_covers_the_schedule_iff
    (route : Route)
    (wallets : Wallets)
    (sourceAxelarId : String)
    (sizing : RunSizing)
    (accepted : sizing.Accepted)
    (gasValue : Nat)
    (node : SourceNode)
    (lower : 2 ≤ node.decimals)
    (upper : node.decimals ≤ 18)
    (exact : ExactArithmetic route sizing gasValue node)
    (derived : List Address)
    (derives : derivedKeys wallets sourceAxelarId sizing route = some derived)
    (several : 1 < derived.dedup.length) :
    (∀ start prepared finish, Executes (fundingMachine wallets.main node)
        (prepare wallets sourceAxelarId sizing gasValue route) () start (.ok prepared) ()
        finish →
      CoversSchedule sizing gasValue prepared finish) ↔
    route.PaysRounds sizing gasValue := by
  have shape := accepted.shape
  constructor
  · intro covers
    by_contra unpaid
    rcases exists_uncovered shape lower upper exact derives several unpaid with
      ⟨start, prepared, finish, executes, uncovered⟩
    exact uncovered (covers start prepared finish executes)
  · intro pays start prepared finish executes address member
    rcases derives_of_several derives several with ⟨derives, foreign⟩
    have pooled := pooled_of_deriveEvmSigners derives several
    rcases prepare_ok exact.fits derives foreign executes with ⟨rfl, holding⟩
    rcases List.mem_iff_getElem?.mp member with ⟨key, found⟩
    have below : key < sizing.numKeys := by
      rw [← pooled.count]
      exact (List.getElem?_eq_some_iff.mp found).1
    have used : usesOf sizing derived address ≤ sizing.transactionsPerKey := by
      rw [usesOf_eq pooled.nodup found]
      exact shape.uses_le below
    rcases holding address member (pooled.other address member) with ⟨native, token⟩
    constructor
    · exact ((Nat.mul_le_mul_right _ used).trans (amounts_cover exact lower upper pays)).trans token
    · exact ((Nat.mul_le_mul_right _ used).trans (extra_covers exact pays)).trans native

end Covering

def numberedWallets : Wallets where
  main := 0
  derive := fun index =>
    if index + 1 < 2 ^ 160 then some (BitVec.ofNat 160 (index + 1)) else none
  derive_injective := by
    intro first second address firstFound secondFound
    by_cases firstFits : first + 1 < 2 ^ 160
    · by_cases secondFits : second + 1 < 2 ^ 160
      · rw [if_pos firstFits] at firstFound
        rw [if_pos secondFits] at secondFound
        have same := congrArg BitVec.toNat (Option.some.inj (firstFound.trans secondFound.symm))
        rw [BitVec.toNat_ofNat, BitVec.toNat_ofNat, Nat.mod_eq_of_lt firstFits,
          Nat.mod_eq_of_lt secondFits] at same
        omega
      · rw [if_neg secondFits] at secondFound
        cases secondFound
    · rw [if_neg firstFits] at firstFound
      cases firstFound
  derive_ne_main := by
    intro index found
    by_cases fits : index + 1 < 2 ^ 160
    · rw [if_pos fits] at found
      have same := congrArg BitVec.toNat (Option.some.inj found)
      rw [BitVec.toNat_ofNat, Nat.mod_eq_of_lt fits] at same
      simp at same
    · rw [if_neg fits] at found
      cases found

def plainNode : SourceNode where
  decimals := 18
  gasPrice := none

def everySecond (durationSecs : Nat) : RunSizing :=
  ⟨.sustained ⟨2, durationSecs, 1⟩, 2, 2 * durationSecs⟩

/-- A run of a hundred rounds. -/
theorem funding_covers_a_hundred_rounds : (everySecond 100).Accepted ∧ ∀ start prepared finish,
        Executes (fundingMachine numberedWallets.main plainNode)
          (prepare numberedWallets "ethereum" (everySecond 100) 10000000000000000 .evm) () start
          (.ok prepared) () finish →
        CoversSchedule (everySecond 100) 10000000000000000 prepared finish :=
  ⟨⟨1, some 2, some 100, 1, rfl⟩,
    (funding_covers_the_schedule_iff .evm numberedWallets "ethereum" (everySecond 100)
      ⟨1, some 2, some 100, 1, rfl⟩ 10000000000000000 plainNode (by decide) (by decide)
      ⟨by decide, by decide⟩ [1, 2] rfl (by decide)).mpr (by decide)⟩

/-- A key with more than a hundred rounds runs out of tokens, and to Sui out of native coin. -/
theorem long_schedules_are_not_covered : ((everySecond 101).Accepted ∧ ∃ start prepared finish,
        Executes (fundingMachine numberedWallets.main plainNode)
          (prepare numberedWallets "ethereum" (everySecond 101) 10000000000000000 .evm) () start
          (.ok prepared) () finish ∧
        ¬ CoversSchedule (everySecond 101) 10000000000000000 prepared finish) ∧
    (everySecond 5).Accepted ∧ ∃ start prepared finish,
        Executes (fundingMachine numberedWallets.main plainNode)
          (prepare numberedWallets "ethereum" (everySecond 5) 10000000000000000 .sui) () start
          (.ok prepared) () finish ∧
        ¬ CoversSchedule (everySecond 5) 10000000000000000 prepared finish := by
  have shape : ∀ durationSecs, 0 < durationSecs → (everySecond durationSecs).Shape := by
    intro durationSecs positive
    exact @RunSizing.Shape.sustained ⟨2, durationSecs, 1⟩ Nat.two_pos positive Nat.one_pos
  have derives : ∀ durationSecs route,
        derivedKeys numberedWallets "ethereum" (everySecond durationSecs) route = some [1, 2] := by
    intro durationSecs route
    cases route <;> rfl
  refine ⟨⟨⟨1, some 2, some 101, 1, rfl⟩, ?_⟩, ⟨1, some 2, some 5, 1, rfl⟩, ?_⟩
  · exact exists_uncovered (shape 101 (by decide)) (by decide) (by decide)
      ⟨by decide, by decide⟩ (derives 101 .evm) (by decide) (by decide)
  · exact exists_uncovered (shape 5 (by decide)) (by decide) (by decide)
      ⟨by decide, by decide⟩ (derives 5 .sui) (by decide) (by decide)

end Axe.LoadTesting

import Axe.IntentPlanning
import Axe.ProgramTraces

namespace Axe.Intents

open Hardened (Address U256)

/-!
# Calibration of exact outputs

When the input of an exact-output quote is over its limit, a smaller output is asked for.
The smaller output is the old one scaled by the limit, less some headroom, over the input
that was quoted.  All roundings of the scaling go down, so a price that is linear or that
does not rise for smaller orders is within the limit after one calibration.
-/

/-- The input that leaves the headroom below the limit. -/
def targetInput (limit : U256) : Nat := limit.toNat * exactOutputHeadroomBps / bpsDenominator

theorem targetInput_le (limit : U256) : targetInput limit ≤ limit.toNat := by
  unfold targetInput exactOutputHeadroomBps bpsDenominator
  omega

theorem calibration_products_fit (requested limit : U256) :
    limit.toNat * exactOutputHeadroomBps < 2 ^ 512 ∧
      requested.toNat * targetInput limit < 2 ^ 512 := by
  have limitFits := limit.isLt
  have requestedFits := requested.isLt
  constructor
  · unfold exactOutputHeadroomBps
    omega
  · calc requested.toNat * targetInput limit
        ≤ requested.toNat * limit.toNat := Nat.mul_le_mul_left _ (targetInput_le limit)
      _ < 2 ^ 256 * 2 ^ 256 := Nat.mul_lt_mul'' requestedFits limitFits
      _ = 2 ^ 512 := (Nat.pow_add 2 256 256).symm

theorem calibrateExactOutput_spec {requested quoted limit adjusted : U256}
    (found : calibrateExactOutput requested quoted limit = some adjusted) :
    0 < adjusted.toNat ∧ adjusted.toNat < requested.toNat ∧
      adjusted.toNat * quoted.toNat ≤ requested.toNat * targetInput limit := by
  simp only [calibrateExactOutput] at found
  split at found
  · cases found
  · split at found
    · rename_i inRange
      cases found
      obtain ⟨positive, smaller⟩ := inRange
      have smaller : (saturate 256 _).toNat < requested.toNat := smaller
      have positive : (saturate 256 _).toNat ≠ 0 := fun zero =>
        positive (BitVec.eq_of_toNat_eq (by simpa using zero))
      -- A value below the request did not saturate.
      have exact : (saturate 256 (requested.toNat * targetInput limit / quoted.toNat)).toNat =
          requested.toNat * targetInput limit / quoted.toNat := by
        have bound := requested.isLt
        have least := @toNat_saturate 256
          (requested.toNat * targetInput limit / quoted.toNat)
        unfold targetInput at least ⊢
        omega
      refine ⟨Nat.pos_of_ne_zero positive, smaller, ?_⟩
      change (saturate 256 (requested.toNat * targetInput limit / quoted.toNat)).toNat * _ ≤ _
      rw [exact]
      exact Nat.div_mul_le_self _ _
    · cases found

/-- The input for an amount at the rate of the first quote. -/
def linearInput (numerator denominator amount : Nat) : Nat :=
  (amount * numerator + (denominator - 1)) / denominator

theorem linearInput_le_iff {numerator denominator amount bound : Nat} (positive : 0 < denominator) :
    linearInput numerator denominator amount ≤ bound ↔
      amount * numerator ≤ bound * denominator := by
  unfold linearInput
  rw [← Nat.lt_succ_iff, Nat.div_lt_iff_lt_mul positive, Nat.succ_mul]
  omega

/-- Prices that are linear up to rounding, or no higher per unit for a smaller amount. -/
inductive FairPricing (input : Nat → Nat) : Prop where
  | linear
      (numerator denominator : Nat)
      (positive : 0 < denominator)
      (rounds : ∀ amount, input amount = linearInput numerator denominator amount)
  | falling
      (average : ∀ smaller amount, 0 < smaller → smaller ≤ amount →
        input smaller * amount ≤ input amount * smaller)

theorem FairPricing.input_le {input : Nat → Nat} (fair : FairPricing input)
    {requested adjusted target : Nat} (positive : 0 < adjusted) (smaller : adjusted < requested)
    (scaled : adjusted * input requested ≤ requested * target) :
    input adjusted ≤ target := by
  have requestedPositive : 0 < requested := Nat.lt_trans positive smaller
  cases fair with
  | linear numerator denominator denominatorPositive rounds =>
    rw [rounds] at scaled ⊢
    have quoted := (@linearInput_le_iff numerator _ requested _ denominatorPositive).mp
      (Nat.le_refl _)
    rw [linearInput_le_iff denominatorPositive]
    apply Nat.le_of_mul_le_mul_left _ requestedPositive
    calc requested * (adjusted * numerator)
        = adjusted * (requested * numerator) := by ring
      _ ≤ adjusted * (linearInput numerator denominator requested * denominator) :=
          Nat.mul_le_mul_left _ quoted
      _ = adjusted * linearInput numerator denominator requested * denominator := by ring
      _ ≤ requested * target * denominator := Nat.mul_le_mul_right _ scaled
      _ = requested * (target * denominator) := by ring
  | falling average =>
    apply Nat.le_of_mul_le_mul_right _ requestedPositive
    calc input adjusted * requested
        ≤ input requested * adjusted := average _ _ positive (Nat.le_of_lt smaller)
      _ = adjusted * input requested := Nat.mul_comm _ _
      _ ≤ requested * target := scaled
      _ = target * requested := Nat.mul_comm _ _

section Preflight

variable (runtime : IntentRuntime) (source destination : WalletAsset) (orderType : OrderType)

/-- The request for a quote of an amount. -/
def preflightRequest (amount : U256) : QuoteRequest :=
  quoteRequest runtime.formats source destination runtime.signer runtime.signer orderType amount

/-- A request for a quote with its answer. -/
def preflightExchange (quoted : U256 × QuoteAnswer) : Exchange intentInterface :=
  ⟨.quote (preflightRequest runtime source destination orderType quoted.1), quoted.2⟩

/-- What is returned was quoted last, and is within the budget. -/
def ReturnsQuote (inputBudget : RoundTripInputBudget) (asked : List (U256 × QuoteAnswer))
    (outcome : Except String (Option ForwardPreflight)) : Prop :=
  ∀ preflight, outcome = .ok (some preflight) → ∃ answer quote,
      asked.getLast? = some (preflight.requested, answer) ∧
        selectQuote answer = .ok (.available quote) ∧
        parseAmount runtime.formats quote.input.amount = .ok preflight.input ∧
        forwardInputIsWithinBudget preflight.input inputBudget = true

/-- What a preflight asks: fewer and fewer of the output, a bounded number of times. -/
structure AsksLess (inputBudget : RoundTripInputBudget) (attempts : Nat) (requested : U256)
    (exchanges : List (Exchange intentInterface))
    (outcome : Except String (Option ForwardPreflight)) (asked : List (U256 × QuoteAnswer)) :
    Prop where
  exchanges : exchanges = asked.map (preflightExchange runtime source destination orderType)
  bounded : asked.length ≤ attempts
  decreasing : (asked.map Prod.fst).Pairwise (· > ·)
  starts : ∀ amount ∈ asked.map Prod.fst, amount ≤ requested
  returns : ReturnsQuote runtime inputBudget asked outcome

variable {runtime source destination orderType}
variable {inputBudget : RoundTripInputBudget} {attempts : Nat} {requested : U256}

variable {answer : QuoteAnswer} {outcome : Except String (Option ForwardPreflight)}

theorem AsksLess.one (returns : ReturnsQuote runtime inputBudget [(requested, answer)] outcome) :
    AsksLess runtime source destination orderType inputBudget (attempts + 1) requested
      [preflightExchange runtime source destination orderType (requested, answer)] outcome
      [(requested, answer)] where
  exchanges := rfl
  bounded := Nat.succ_le_succ (Nat.zero_le _)
  decreasing := List.pairwise_singleton _ _
  starts := by simp
  returns := returns

variable {asked : List (U256 × QuoteAnswer)}

theorem AsksLess.more {adjusted : U256} {exchanges : List (Exchange intentInterface)}
    (less : AsksLess runtime source destination orderType inputBudget attempts adjusted exchanges
      outcome asked) (smaller : adjusted < requested) :
    AsksLess runtime source destination orderType inputBudget (attempts + 1) requested
      (preflightExchange runtime source destination orderType (requested, answer) :: exchanges)
      outcome ((requested, answer) :: asked) where
  exchanges := by rw [less.exchanges, List.map_cons]
  bounded := Nat.succ_le_succ less.bounded
  decreasing := by
    refine List.pairwise_cons.mpr ⟨fun amount member => ?_, less.decreasing⟩
    exact Nat.lt_of_le_of_lt (less.starts amount member) smaller
  starts := by
    intro amount member
    rcases List.mem_cons.mp member with rfl | later
    · exact BitVec.le_refl _
    · exact Nat.le_trans (less.starts amount later) (Nat.le_of_lt smaller)
  returns := by
    intro preflight isPreflight
    obtain ⟨last, quote, isLast, rest⟩ := less.returns preflight isPreflight
    exact ⟨last, quote, by rw [List.getLast?_cons, isLast]; rfl, rest⟩

theorem returnsQuote_of_ne (none : ∀ preflight, outcome ≠ .ok (some preflight)) :
    ReturnsQuote runtime inputBudget asked outcome :=
  fun preflight isPreflight => absurd isPreflight (none preflight)

theorem preflightForward_traces (attempts : Nat) (requested : U256) :
    (preflightForward runtime source destination orderType inputBudget attempts requested).Traces
      fun exchanges outcome =>
        ∃ asked, AsksLess runtime source destination orderType inputBudget attempts requested
          exchanges outcome asked := by
  induction attempts generalizing requested with
  | zero =>
    exact ⟨[], rfl, Nat.le_refl _, List.Pairwise.nil, by simp,
      returnsQuote_of_ne (by simp)⟩
  | succ attempts ih =>
    intro answer
    have stops {outcome : Except String (Option ForwardPreflight)}
        (none : ∀ preflight, outcome ≠ .ok (some preflight)) :
        ∃ asked, AsksLess runtime source destination orderType inputBudget (attempts + 1) requested
          [preflightExchange runtime source destination orderType (requested, answer)] outcome
          asked :=
      ⟨_, AsksLess.one (returnsQuote_of_ne none)⟩
    apply Program.Traces.check_bind
    · intro error _
      exact stops (by simp)
    intro outcome isOutcome
    cases outcome with
    | unavailable reason => exact stops (by simp)
    | available quote =>
      apply Program.Traces.check_bind
      · intro error _
        exact stops (by simp)
      intro _ _
      apply Program.Traces.check_bind
      · intro error _
        exact stops (by simp)
      intro input isInput
      split
      · rename_i within
        apply Program.Traces.check_bind
        · intro error _
          exact stops (by simp)
        intro _ _
        apply Program.Traces.check_bind
        · intro error _
          exact stops (by simp)
        intro settlementContract _
        apply Program.Traces.check_bind
        · intro error _
          exact stops (by simp)
        intro output _
        refine ⟨_, AsksLess.one ?_⟩
        rintro preflight ⟨⟩
        exact ⟨answer, quote, rfl, isOutcome, isInput, within⟩
      · split
        · exact stops (by simp)
        · split
          · exact stops (by simp)
          · rename_i adjusted calibrated
            obtain ⟨limit, _, found⟩ := Option.bind_eq_some_iff.mp calibrated
            have smaller : adjusted < requested := (calibrateExactOutput_spec found).2.1
            apply (ih adjusted).mono
            rintro exchanges outcome ⟨asked, less⟩
            exact ⟨_, less.more smaller⟩

end Preflight

/-- Calibration gives a smaller output that is in proportion to the limit, without an
overflow.  A preflight asks for at most three quotes, each for less than the one before, and
returns only the last of them and only within the limit.  One calibration is enough for a
price that is linear, or that does not rise on average when less is asked for. -/
theorem exact_output_calibration_converges
    (runtime : IntentRuntime)
    (source destination : WalletAsset)
    (orderType : OrderType)
    (inputBudget : RoundTripInputBudget)
    (initialAmount : U256) :
    (∀ requested quoted limit adjusted,
      calibrateExactOutput requested quoted limit = some adjusted →
        0 < adjusted ∧ adjusted < requested ∧
          adjusted.toNat * quoted.toNat ≤ requested.toNat * limit.toNat) ∧
    (∀ requested limit : U256, limit.toNat * exactOutputHeadroomBps < 2 ^ 512 ∧
        requested.toNat * (limit.toNat * exactOutputHeadroomBps / bpsDenominator) < 2 ^ 512) ∧
    (preflightForward runtime source destination orderType inputBudget
      exactOutputCalibrationAttempts initialAmount).Traces
      (fun exchanges outcome =>
        ∃ asked, AsksLess runtime source destination orderType inputBudget
          exactOutputCalibrationAttempts initialAmount exchanges outcome asked) ∧
    (∀ input, FairPricing input → ∀ requested quoted limit adjusted : U256,
      input requested.toNat = quoted.toNat →
        calibrateExactOutput requested quoted limit = some adjusted →
          input adjusted.toNat ≤ limit.toNat) := by
  refine ⟨?_, calibration_products_fit, preflightForward_traces _ _, ?_⟩
  · intro requested quoted limit adjusted found
    obtain ⟨positive, smaller, scaled⟩ := calibrateExactOutput_spec found
    exact ⟨positive, smaller, scaled.trans (Nat.mul_le_mul_left _ (targetInput_le limit))⟩
  · intro input fair requested quoted limit adjusted isQuoted found
    obtain ⟨positive, smaller, scaled⟩ := calibrateExactOutput_spec found
    rw [← isQuoted] at scaled
    exact (fair.input_le positive smaller scaled).trans (targetInput_le limit)

end Axe.Intents

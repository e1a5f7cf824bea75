import Axe.LegOrders
import Axe.RoutePlans

namespace Axe.Intents

open Hardened (Address U256)

/-!
# The budget of a round trip

A round trip of a sweep takes a share of each side at most, if the server is honest in two
ways: its deposits take no more than their quotes name, and it reports no more than was
delivered.  Neither is checked by the command.
-/

variable {takes : Takes} {runtime : IntentRuntime} {chains : List (String × ChainRuntime)}
variable {here : Dealings} {ledger : Ledger}

def Accounted (takes : Takes) (ledger : Ledger) : Prop :=
  ∀ place, ledger.spentBy place = 0 ∨
      ∃ call, ledger.sent[place]? = some call ∧ takes call (ledger.spentBy place)

theorem totalFor_append {Key : Type} [DecidableEq Key] (key other : Key) (amount : Nat)
    (entries : List (Key × Nat)) :
    totalFor key (entries ++ [(other, amount)]) =
      totalFor key entries + if other = key then amount else 0 := by
  by_cases same : other = key
  · simp [totalFor, List.filter_append, same]
  · simp [totalFor, List.filter_append, same]

variable {later : Ledger}

theorem Accounted.moves (accounted : Accounted takes ledger) (step : Moves takes ledger later) :
    Accounted takes later := by
  intro place
  cases step with
  | @take taken call amount present possible =>
    have total := totalFor_append place taken amount ledger.taken
    by_cases same : taken = place
    · subst same
      rw [if_pos rfl] at total
      apply Or.inr
      refine ⟨call, present, ?_⟩
      unfold Ledger.spentBy at possible ⊢
      rwa [total]
    · rw [if_neg same, Nat.add_zero] at total
      unfold Ledger.spentBy
      rw [total]
      exact accounted place
  | deliver quoteId amount => exact accounted place

theorem Accounted.sends (accounted : Accounted takes ledger) (added : List SentCall) :
    Accounted takes { ledger with sent := ledger.sent ++ added } := by
  intro place
  rcases accounted place with nothing | ⟨call, present, possible⟩
  · exact .inl nothing
  · have inside : place < ledger.sent.length := (List.getElem?_eq_some_iff.mp present).1
    exact .inr ⟨call, (List.getElem?_append_left inside).trans present, possible⟩

def HonestQuote (takes : Takes) (runtime : IntentRuntime) (chains : List (String × ChainRuntime))
    (quote : Quote) : Prop :=
  ∀ source call input amount, DepositOf runtime chains source quote call →
      runtime.formats.parseU256 quote.input.amount = some input →
      takes call amount → amount ≤ input.toNat

def Backed (runtime : IntentRuntime) (ledger : Ledger) (report : String × StatusOutput) : Prop :=
  ∀ amount, runtime.formats.parseU256 report.2.amount = some amount →
      amount.toNat ≤ ledger.deliveredFor report.1

/-- Steps after which every offer is honest and every report is backed. -/
def Sound (takes : Takes) (runtime : IntentRuntime)
    (chains : List (String × ChainRuntime)) : Service.Permit Dealings Ledger :=
  fun _ _ here ledger =>
    (∀ offer ∈ here.offered, HonestQuote takes runtime chains offer.2) ∧
      ∀ report ∈ here.reported, Backed runtime ledger report

/-- What is known of the first leg when the leg back starts. -/
structure Forwarded (runtime : IntentRuntime) (chains : List (String × ChainRuntime))
    (plan : RoutePlan) (forward : LegResult) (quote : Quote) (calls : List SentCall)
    (here : Dealings) : Prop where
  brings : (LegOrder.fresh (forwardLeg runtime plan)).Brings runtime here quote
  fits : Fits runtime.formats (forwardLeg runtime plan).terms quote forward.inputAmount
  calls : QuoteCalls runtime chains (forwardLeg runtime plan).terms quote forward.inputAmount calls
  reported : ∃ output, (quote.quoteId, output) ∈ here.reported ∧
        runtime.formats.parseU256 output.amount = some forward.outputAmount

theorem Forwarded.grow {plan : RoutePlan} {forward : LegResult} {quote : Quote}
    {calls : List SentCall} {here' : Dealings}
    (forwarded : Forwarded runtime chains plan forward quote calls here)
    (offered : here.offered ⊆ here'.offered) (reported : here.reported ⊆ here'.reported) :
    Forwarded runtime chains plan forward quote calls here' := by
  obtain ⟨output, member, parsed⟩ := forwarded.reported
  exact ⟨forwarded.brings.grow offered, forwarded.fits, forwarded.calls, output,
    reported member, parsed⟩

def TripSent (runtime : IntentRuntime) (chains : List (String × ChainRuntime)) (plan : RoutePlan)
    (here : Dealings) (ledger : Ledger) : Prop :=
  LegSent runtime chains (.fresh (forwardLeg runtime plan)) [] here ledger ∨
    ∃ forward leg quote calls, reverseLeg runtime plan forward = .ok leg ∧
        Forwarded runtime chains plan forward quote calls here ∧
        LegSent runtime chains (.fresh leg) calls here ledger

variable {base : List SentCall}

theorem LegSent.evolves {order : LegOrder} (sent : LegSent runtime chains order base here ledger)
    (evolved : (dealMachine takes).Evolves ledger later) :
    LegSent runtime chains order base here later :=
  sent.quiet ⟨List.Subset.refl _, List.Subset.refl _, sent_of_evolves evolved⟩

theorem TripSent.evolves {plan : RoutePlan} (sent : TripSent runtime chains plan here ledger)
    (evolved : (dealMachine takes).Evolves ledger later) :
    TripSent runtime chains plan here later := by
  rcases sent with first | ⟨forward, leg, quote, calls, back, forwarded, sent⟩
  · exact .inl (first.evolves evolved)
  · exact .inr ⟨forward, leg, quote, calls, back, forwarded, sent.evolves evolved⟩

end Axe.Intents

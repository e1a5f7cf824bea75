import Axe.IntentSamples
import Axe.RoundTripBudget

namespace Axe.Intents

open Hardened (Address U256)

/-!
# What a round trip spends

With an honest server the deposit of the first leg takes a share of the source asset at
most, and the deposit back takes at most what the first leg delivered and a share of the
destination asset.  A server that reports more than it delivered, or whose deposit takes
more than its quote names, gets more.
-/

variable {takes : Takes} {runtime : IntentRuntime} {chains : List (String × ChainRuntime)}
variable {here : Dealings} {ledger : Ledger}

def OneDeposit (asset : WalletAsset) (calls : List SentCall) : Prop :=
  (calls.filter fun call => call.label = depositLabel).length ≤ 1 ∧ ∀ call ∈ calls,
      ∃ chainId, parseChainId asset.id.chainId = .ok chainId ∧ call.request.chainId = some chainId

/-- A quote is for an input of one asset and an output of the other. -/
def Trades (quote : Quote) (source destination : AssetId) : Prop :=
  (quote.input.chain = source.chainId ∧
      eqIgnoreAsciiCase quote.input.token source.tokenAddress = true) ∧
    quote.output.chain = destination.chainId ∧
    eqIgnoreAsciiCase quote.output.token destination.tokenAddress = true

/--
The transactions of a round trip between two assets: those of a forward leg, whose quote is
for the source, and those of a leg back, whose quote is for the destination.  Each leg has at
most one deposit, and each deposit spends what it may of the asset that its quote names.
-/
def RoundTripSpends (runtime : IntentRuntime) (chains : List (String × ChainRuntime))
    (walletBps : BitVec 16) (source destination : WalletAsset) (ledger : Ledger) : Prop :=
  ∃ forward reverse quote, ledger.sent = forward ++ reverse ∧ OneDeposit source forward ∧
      OneDeposit destination reverse ∧
      Trades quote source.id destination.id ∧
      (∀ call ∈ forward, call.label = depositLabel → DepositOf runtime chains source quote call) ∧
      (∀ call ∈ reverse, call.label = depositLabel → ∃ held back, held.id = destination.id ∧
        Trades back destination.id source.id ∧ DepositOf runtime chains held back call) ∧
      (∀ place call, ledger.sent[place]? = some call → call.label = depositLabel →
        place < forward.length → ledger.spentBy place ≤ source.share walletBps) ∧
      ∀ place call, ledger.sent[place]? = some call → call.label = depositLabel →
        forward.length ≤ place → ledger.spentBy place ≤
            ledger.deliveredFor quote.quoteId + destination.share walletBps

theorem label_of_approval {terms : LegTerms} {call : SentCall}
    (approves : ApprovalCall runtime chains terms call) :
    call.label ≠ depositLabel := by
  have different : approvalLabel ≠ depositLabel := by decide
  obtain ⟨_, _, _, _, _, _, _, _, rfl⟩ := approves
  exact different

theorem Fits.trades {formats : IntentFormats} {terms : LegTerms} {quote : Quote} {input : U256}
    (fits : Fits formats terms quote input) :
    Trades quote terms.source.id terms.destination.id :=
  ⟨⟨fits.sourceChain, fits.sourceToken⟩, fits.destinationChain, fits.destinationToken⟩

section Leg

variable {terms : LegTerms} {quote : Quote} {input : U256} {calls : List SentCall}

theorem QuoteCalls.deposits (within : QuoteCalls runtime chains terms quote input calls) :
    ∀ call ∈ calls, call.label = depositLabel →
      DepositOf runtime chains terms.source quote call := by
  obtain ⟨approvals, deposits, rfl, approved, _, deposited⟩ := within
  intro call member label
  rcases List.mem_append.mp member with approval | deposit
  · exact (label_of_approval (approved.2 call approval) label).elim
  · exact (deposited call deposit).2

theorem QuoteCalls.oneDeposit (within : QuoteCalls runtime chains terms quote input calls) :
    OneDeposit terms.source calls := by
  obtain ⟨approvals, deposits, rfl, approved, single, deposited⟩ := within
  constructor
  · have none : approvals.filter (fun call => call.label = depositLabel) = [] := by
      apply List.filter_eq_nil_iff.mpr
      intro call member label
      exact label_of_approval (approved.2 call member) (of_decide_eq_true label)
    rw [List.filter_append, none, List.nil_append]
    exact (List.length_filter_le _ _).trans single
  · intro call member
    rcases List.mem_append.mp member with approval | deposit
    · obtain ⟨_, _, chainId, _, _, _, parsed, _, rfl⟩ := approved.2 call approval
      exact ⟨chainId, parsed, rfl⟩
    · obtain ⟨_, chainId, _, _, parsed, rfl⟩ := (deposited call deposit).1
      exact ⟨chainId, parsed, rfl⟩

theorem QuoteCalls.spends {before after : List SentCall}
    (within : QuoteCalls runtime chains terms quote input calls)
    (fits : Fits runtime.formats terms quote input)
    (honest : HonestQuote takes runtime chains quote) (accounted : Accounted takes ledger)
    (sent : ledger.sent = before ++ (calls ++ after)) :
    ∀ place call, ledger.sent[place]? = some call → call.label = depositLabel →
      before.length ≤ place → place < before.length + calls.length →
        ledger.spentBy place ≤ input.toNat := by
  intro place call present label notBefore inside
  have member : call ∈ calls := by
    rw [sent, List.getElem?_append_right notBefore, List.getElem?_append_left (by omega)] at present
    exact List.mem_of_getElem? present
  rcases accounted place with nothing | ⟨other, found, possible⟩
  · rw [nothing]
    exact Nat.zero_le _
  · have same : call = other := Option.some.inj (present.symm.trans found)
    subst same
    exact honest terms.source call input _ (within.deposits call member label)
      fits.inputAmount possible

end Leg

section Trip

variable {walletBps : BitVec 16} {assets : List WalletAsset} {plan : RoutePlan}

variable {quote : Quote} {input : U256}

theorem forward_input_le (planned : SweepPlan assets walletBps plan)
    (fits : Fits runtime.formats (forwardLeg runtime plan).terms quote input) :
    input.toNat ≤ plan.source.share walletBps := by
  obtain ⟨forward, reverseTopUp, budget, within, _⟩ := capped_le planned.budget
  have limit : (forwardLeg runtime plan).terms.maxInputAmount = some forward := by
    simp [forwardLeg, LegExecution.terms, budget]
  have bounded : input.toNat ≤ forward.toNat := fits.withinLimit forward limit
  exact bounded.trans within

variable {forward : LegResult}

theorem reverse_input_le {leg : LegExecution} (planned : SweepPlan assets walletBps plan)
    (back : reverseLeg runtime plan forward = .ok leg)
    (fits : Fits runtime.formats leg.terms quote input) :
    input.toNat ≤ forward.outputAmount.toNat + plan.destination.share walletBps := by
  obtain ⟨_, reverseTopUp, budget, _, within⟩ := capped_le planned.budget
  simp only [reverseLeg, reverseInputLimit, budget, Check.bind_eq_ok, Check.orError_eq_ok] at back
  obtain ⟨balance, _, limit, ⟨sum, fitsSum, sameLimit⟩, ends⟩ := back
  cases sameLimit
  cases ends
  have bounded : input.toNat ≤ sum.toNat := fits.withinLimit sum rfl
  have exactSum := toNat_of_checkedAdd fitsSum
  omega

theorem assets_of_reverseLeg {leg : LegExecution}
    (back : reverseLeg runtime plan forward = .ok leg) :
    leg.source.id = plan.destination.id ∧ leg.destination.id = plan.source.id := by
  simp only [reverseLeg, Check.bind_eq_ok] at back
  obtain ⟨_, _, _, _, ends⟩ := back
  cases ends
  exact ⟨rfl, rfl⟩

theorem spends_of_forward (planned : SweepPlan assets walletBps plan)
    (fits : Fits runtime.formats (forwardLeg runtime plan).terms quote input)
    (within : QuoteCalls runtime chains (forwardLeg runtime plan).terms quote input ledger.sent)
    (honest : HonestQuote takes runtime chains quote) (accounted : Accounted takes ledger) :
    RoundTripSpends runtime chains walletBps plan.source plan.destination ledger := by
  refine ⟨ledger.sent, [], quote, by simp, within.oneDeposit, ⟨by simp, by simp⟩,
    fits.trades, within.deposits, by simp, ?_, ?_⟩
  · intro place call present label inside
    have spent := within.spends fits honest accounted
      (show ledger.sent = [] ++ (ledger.sent ++ []) by simp) place call present label
      (Nat.zero_le _) (by simpa using inside)
    exact spent.trans (forward_input_le planned fits)
  · intro place call present _ outside
    rw [List.getElem?_eq_none outside] at present
    cases present

theorem TripSent.spends (planned : SweepPlan assets walletBps plan)
    (sent : TripSent runtime chains plan here ledger) (accounted : Accounted takes ledger)
    (honest : ∀ offer ∈ here.offered, HonestQuote takes runtime chains offer.2)
    (backed : ∀ report ∈ here.reported, Backed runtime ledger report) :
    ledger.sent = [] ∨
      RoundTripSpends runtime chains walletBps plan.source plan.destination ledger := by
  rcases sent with
    (nothing | ⟨quote, input, brings, fits, calls, within, sent⟩) |
    ⟨forward, leg, quote, calls, back, forwarded, returning⟩
  · exact .inl nothing
  · rw [List.nil_append] at sent
    subst sent
    exact .inr (spends_of_forward planned fits within (honest _ brings) accounted)
  · rcases returning with
      none | ⟨backQuote, input, backBrings, backFits, backCalls, backWithin, sent⟩
    · subst none
      exact .inr (spends_of_forward planned forwarded.fits forwarded.calls
        (honest _ forwarded.brings) accounted)
    · obtain ⟨output, reported, parsed⟩ := forwarded.reported
      have delivered : forward.outputAmount.toNat ≤ ledger.deliveredFor quote.quoteId :=
        backed _ reported _ parsed
      obtain ⟨sameSource, sameDestination⟩ := assets_of_reverseLeg back
      have oneBack : OneDeposit plan.destination backCalls := by
        have single := backWithin.oneDeposit
        unfold OneDeposit at single ⊢
        rwa [← sameSource]
      have tradesBack : Trades backQuote plan.destination.id plan.source.id := by
        rw [← sameSource, ← sameDestination]
        exact backFits.trades
      refine .inr ⟨calls, backCalls, quote, sent, forwarded.calls.oneDeposit, oneBack,
        forwarded.fits.trades, forwarded.calls.deposits, ?_, ?_, ?_⟩
      · intro call member label
        exact ⟨leg.source, backQuote, sameSource, tradesBack,
          backWithin.deposits call member label⟩
      · intro place call present label inside
        have spent := forwarded.calls.spends forwarded.fits (honest _ forwarded.brings)
          accounted (show ledger.sent = [] ++ (calls ++ backCalls) by simpa using sent)
          place call present label (Nat.zero_le _) (by simpa using inside)
        exact spent.trans (forward_input_le planned forwarded.fits)
      · intro place call present label outside
        have last : place < ledger.sent.length := (List.getElem?_eq_some_iff.mp present).1
        have spent := backWithin.spends backFits (honest _ backBrings) accounted
          (show ledger.sent = calls ++ (backCalls ++ []) by simpa using sent)
          place call present label outside (by simpa [sent] using last)
        have bounded := reverse_input_le planned back backFits
        omega

end Trip

theorem Runs.accounted {permit : Service.Permit Dealings Ledger}
    {first last : Config intentInterface String Dealings Ledger}
    (run : (intentService takes).Runs permit first last) (start : Accounted takes first.world) :
    Accounted takes last.world := by
  induction run with
  | refl => exact start
  | tail _ step ih =>
    cases step.1 with
    | environment evolved => exact ih.moves evolved
    | launch order => exact order.elim
    | @perform op next here world reply allowed =>
      cases op with
      | sendTx rpcUrl request label => exact ih.sends _
      | status quoteId =>
        cases reply with
        | ok status => exact ih
        | error error => exact ih
      | _ => exact ih
    | stop => exact ih

namespace Sample

/-- Both native assets, each with ten thousand beyond the gas reserve. -/
def coins : RouteDiscovery where
  chains := Sample.chains
  assets := [coin "eip155:1" 1000000000010000, coin "eip155:2" 1000000000010000]

/-- Steps after which every offer is a quote of one for one and every report is backed. -/
def OneForOne : Service.Permit Dealings Ledger :=
  fun _ _ here ledger =>
    (∀ offer ∈ here.offered, offer.2 = quoteFor offer.1) ∧ ∀ report ∈ here.reported,
        (formats.parseU256 report.2.amount).all
          (fun amount => amount.toNat ≤ ledger.deliveredFor report.1) = true

instance oneForOneDecidable (here : Dealings) (ledger : Ledger) (here' : Dealings)
    (ledger' : Ledger) :
    Decidable (OneForOne here ledger here' ledger') :=
  inferInstanceAs (Decidable (_ ∧ _))

end Sample

end Axe.Intents

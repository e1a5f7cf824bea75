import Axe.LegContracts

namespace Axe.Intents

open Hardened (Address U256)

/-!
# Whole legs

A leg has its quote from a plan or takes a new one.  Either way, what it sends belongs to a
quote that fits its terms, at every moment of its execution.
-/

inductive LegOrder where
  | fresh (leg : LegExecution)
  | planned (plan : LegPlan)

def LegOrder.terms : LegOrder → LegTerms
  | fresh leg => leg.terms
  | planned plan => plan.terms

def LegOrder.program (runtime : IntentRuntime)
    (chains : List (String × ChainRuntime)) : LegOrder → Intent LegResult
  | fresh leg => executeLeg runtime chains leg
  | planned plan => executePlannedLeg runtime chains plan

def legRequest (runtime : IntentRuntime) (leg : LegExecution) : QuoteRequest :=
  quoteRequest runtime.formats leg.source leg.destination runtime.signer leg.recipient
    leg.orderType leg.amount

def LegOrder.Brings (runtime : IntentRuntime) : LegOrder → Dealings → Quote → Prop
  | fresh leg, here, quote => (legRequest runtime leg, quote) ∈ here.offered
  | planned plan, _, quote => quote = plan.quote

variable {takes : Takes} {runtime : IntentRuntime} {chains : List (String × ChainRuntime)}
variable {here : Dealings} {ledger : Ledger} {base : List SentCall}

variable {order : LegOrder} {here' : Dealings}

theorem LegOrder.Brings.grow {quote : Quote} (brings : order.Brings runtime here quote)
    (grows : here.offered ⊆ here'.offered) :
    order.Brings runtime here' quote := by
  cases order with
  | fresh leg => exact grows brings
  | planned plan => exact brings

def LegSent (runtime : IntentRuntime) (chains : List (String × ChainRuntime)) (order : LegOrder)
    (base : List SentCall) (here : Dealings) (ledger : Ledger) : Prop :=
  ledger.sent = base ∨ ∃ quote input, order.Brings runtime here quote ∧
        Fits runtime.formats order.terms quote input ∧
        Since base (QuoteCalls runtime chains order.terms quote input) ledger

theorem LegSent.quiet {later : Ledger} (sent : LegSent runtime chains order base here ledger)
    (quiet : Quiet here ledger here' later) :
    LegSent runtime chains order base here' later := by
  rcases sent with nothing | ⟨quote, input, brings, fits, since⟩
  · exact .inl (quiet.sent.trans nothing)
  · exact .inr ⟨quote, input, brings.grow quiet.offered, fits, since.same quiet.sent⟩

/-- Every call of a leg keeps what it has sent within a quote that fits. -/
structure LegStep (runtime : IntentRuntime) (chains : List (String × ChainRuntime))
    (order : LegOrder) (base : List SentCall) (here : Dealings) (ledger : Ledger) (here' : Dealings)
    (ledger' : Ledger) : Prop where
  offered : here.offered ⊆ here'.offered
  reported : here.reported ⊆ here'.reported
  sent : LegSent runtime chains order base here ledger →
      LegSent runtime chains order base here' ledger'

theorem LegStep.of_quiet {ledger' : Ledger} (quiet : Quiet here ledger here' ledger') :
    LegStep runtime chains order base here ledger here' ledger' :=
  ⟨quiet.offered, quiet.reported, fun sent => sent.quiet quiet⟩

def LegDone (runtime : IntentRuntime) (chains : List (String × ChainRuntime)) (order : LegOrder)
    (base : List SentCall) (result : LegResult) (here : Dealings) (ledger : Ledger) : Prop :=
  ∃ quote output, order.Brings runtime here quote ∧
      Fits runtime.formats order.terms quote result.inputAmount ∧
      Since base (QuoteCalls runtime chains order.terms quote result.inputAmount) ledger ∧
      (quote.quoteId, output) ∈ here.reported ∧
      runtime.formats.parseU256 output.amount = some result.outputAmount

theorem validateSelected_meets (order : LegOrder) (quote : Quote) (start : ledger.sent = base) :
    Meets (dealMachine takes) (LegStep runtime chains order base)
      (validateSelected runtime quote order.terms)
      (fun input here' later =>
        here' = here ∧ later.sent = base ∧ Fits runtime.formats order.terms quote input ∧
          validateQuoteActions runtime.formats quote order.terms.source input =
            .ok order.terms.settlementContract)
      (fun _ here' later => LegSent runtime chains order base here' later) here ledger := by
  apply Meets.check_bind
  · intro _ valid
    apply Meets.read_bind reads_now (fun here ledger => .of_quiet (Quiet.refl here ledger))
    intro moved evolved now _
    have nothing : moved.sent = base := (sent_of_evolves evolved).trans start
    apply Meets.check_bind
    · intro _ _
      apply Meets.check_bind
      · intro input parsed
        apply Meets.check_bind
        · intro _ limited
          apply Meets.check_bind
          · intro settlement settled
            apply Meets.ensure_bind
            · rintro rfl
              exact ⟨rfl, nothing, fits_of_checks valid parsed limited, settled⟩
            · exact fun _ => .inl nothing
          · exact fun _ _ => .inl nothing
        · exact fun _ _ => .inl nothing
      · exact fun _ _ => .inl nothing
    · exact fun _ _ => .inl nothing
  · exact fun _ _ => .inl start

theorem selected_meets {quote : Quote} {input : U256} (brings : order.Brings runtime here quote)
    (fits : Fits runtime.formats order.terms quote input)
    (settled : validateQuoteActions runtime.formats quote order.terms.source input =
        .ok order.terms.settlementContract) (start : ledger.sent = base) :
    Meets (dealMachine takes) (LegStep runtime chains order base)
      (submitSelectedLeg runtime chains order.terms.source order.terms.destination quote input)
      (fun submitted here' later =>
        Meets (dealMachine takes) (LegStep runtime chains order base)
          (finishSubmittedIntent runtime submitted)
          (LegDone runtime chains order base)
          (fun _ => LegSent runtime chains order base) here' later)
      (fun _ => LegSent runtime chains order base) here ledger := by
  subst start
  refine (submitSelectedLeg_meets settled (fun here ledger => .of_quiet (Quiet.refl here ledger))
    fun calls later within => ?_).weaken ?_ ?_
  · exact ⟨List.Subset.refl _, List.Subset.refl _,
      fun _ => .inr ⟨quote, input, brings, fits, calls, within, rfl⟩⟩
  · rintro submitted here' later ⟨rfl, rfl, since⟩
    apply (finishSubmittedIntent_meets (fun quiet => LegStep.of_quiet quiet) _).weaken
    · rintro result last final ⟨quiet, rfl, output, reported, parsed⟩
      exact ⟨quote, output, brings.grow quiet.offered, fits, since.same quiet.sent, reported,
        parsed⟩
    · intro error last final quiet
      exact .inr ⟨quote, input, brings.grow quiet.offered, fits, since.same quiet.sent⟩
  · rintro error here' later ⟨rfl, since⟩
    exact .inr ⟨quote, input, brings, fits, since⟩

theorem executeLeg_meets (leg : LegExecution) (start : ledger.sent = base) :
    Meets (dealMachine takes) (LegStep runtime chains (.fresh leg) base)
      (executeLeg runtime chains leg)
      (LegDone runtime chains (.fresh leg) base)
      (fun _ => LegSent runtime chains (.fresh leg) base) here ledger := by
  apply Meets.bind
  have quoting : Meets (dealMachine takes) (LegStep runtime chains (.fresh leg) base)
        (quoteForExecution runtime leg)
        (fun selected here' later =>
          LegOrder.Brings runtime (.fresh leg) here' selected.1 ∧ later.sent = base ∧
            Fits runtime.formats leg.terms selected.1 selected.2 ∧
            validateQuoteActions runtime.formats selected.1 leg.source selected.2 =
              .ok leg.settlementContract)
        (fun _ => LegSent runtime chains (.fresh leg) base) here ledger := by
    apply (requireQuote_meets (fun quiet => LegStep.of_quiet quiet) _).andThen
    · intro error here' later quiet
      exact .inl (quiet.sent.trans start)
    rintro quote here' later ⟨quiet, offered⟩
    apply (validateSelected_meets (.fresh leg) quote (quiet.sent.trans start)).andThen
    · exact fun _ _ _ sent => sent
    rintro input last final ⟨rfl, nothing, fits, settled⟩
    exact ⟨offered, nothing, fits, settled⟩
  apply quoting.andThen
  · exact fun _ _ _ sent => sent
  rintro ⟨quote, input⟩ here' later ⟨brings, nothing, fits, settled⟩
  exact selected_meets brings fits settled nothing

theorem executePlannedLeg_meets (plan : LegPlan) (start : ledger.sent = base) :
    Meets (dealMachine takes) (LegStep runtime chains (.planned plan) base)
      (executePlannedLeg runtime chains plan)
      (LegDone runtime chains (.planned plan) base)
      (fun _ => LegSent runtime chains (.planned plan) base) here ledger := by
  apply (validateSelected_meets (.planned plan) plan.quote start).andThen
  · exact fun _ _ _ sent => sent
  rintro input here' later ⟨rfl, nothing, fits, settled⟩
  have brings : (LegOrder.planned plan).Brings runtime here' plan.quote := rfl
  exact Meets.bind (selected_meets brings fits settled nothing)

theorem LegOrder.program_meets (order : LegOrder) (start : ledger.sent = base) :
    Meets (dealMachine takes) (LegStep runtime chains order base)
      (order.program runtime chains)
      (LegDone runtime chains order base)
      (fun _ => LegSent runtime chains order base) here ledger := by
  cases order with
  | fresh leg => exact executeLeg_meets leg start
  | planned plan => exact executePlannedLeg_meets plan start

end Axe.Intents

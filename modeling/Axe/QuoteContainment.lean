import Axe.EvmSendCalls
import Axe.IntentSamples
import Axe.LegOrders

namespace Axe.Intents

open Hardened (Address U256)

/-!
# Untrusted quotes are contained

Whatever the server answers, a leg that is executed sends at most an approval of the source
token for the settlement contract of the plan and a call of that contract, and it does so
only for a quote that fits its terms.
-/

variable {takes : Takes} {runtime : IntentRuntime} {chains : List (String × ChainRuntime)}

/-- At most one approval, and then at most one deposit. -/
def Contained (runtime : IntentRuntime) (chains : List (String × ChainRuntime)) (terms : LegTerms)
    (input : U256) (calls : List SentCall) : Prop :=
  ∃ approvals deposits, calls = approvals ++ deposits ∧ approvals.length ≤ 1 ∧ deposits.length ≤ 1 ∧
      (∀ call ∈ approvals, ApprovalCall runtime chains terms call) ∧
      ∀ call ∈ deposits, DepositCall runtime chains terms input call

theorem QuoteCalls.contained {terms : LegTerms} {quote : Quote} {input : U256}
    {calls : List SentCall} (within : QuoteCalls runtime chains terms quote input calls) :
    Contained runtime chains terms input calls := by
  obtain ⟨approvals, deposits, split, approved, single, deposited⟩ := within
  exact ⟨approvals, deposits, split, approved.1, single, approved.2,
    fun call member => (deposited call member).1⟩

def legStart (runtime : IntentRuntime) (chains : List (String × ChainRuntime))
    (order : LegOrder) : Config intentInterface String Dealings Ledger where
  activity := .busy ((order.program runtime chains).bind fun _ => .done ())
  here := ⟨[], []⟩
  world := ⟨[], [], []⟩

namespace Sample

/-- A transfer of the token between the chains. -/
def sampleLeg : LegExecution where
  source := token "eip155:1" 50
  destination := token "eip155:2" 0
  orderType := .exactInput
  amount := 20
  recipient := wallet
  maxInputAmount := some 30
  settlementContract := settlement

/-- The server asks for an approval of the input, and for the deposit. -/
def sampleServer : Server where
  quote := fun request =>
    let approval := action .approval "eip155:1" "3"
      ("0x" ++ hexEncode (approveCalldata settlement 20)) "0"
    .quotes [{ quoteFor request with actions := approval :: (quoteFor request).actions }]
  status := fun quoteId => .ok (doneWith quoteId (token "eip155:2" 0) "20")

end Sample

theorem Runs.legSent {order : LegOrder} {last : Config intentInterface String Dealings Ledger}
    (run : (intentService takes).Runs Service.Permit.anything
        (legStart runtime chains order) last) :
    LegSent runtime chains order [] last.here last.world := by
  have obedient : Meets (dealMachine takes) (LegStep runtime chains order [])
        ((order.program runtime chains).bind fun _ => (.done () : Intent Unit))
        (fun _ _ _ => True) (fun _ _ _ => True) ⟨[], []⟩ ⟨[], [], []⟩ := by
    have started : (⟨[], [], []⟩ : Ledger).sent = [] := rfl
    apply Meets.andThen (order.program_meets started)
    · exact fun _ _ _ _ => trivial
    · exact fun _ _ _ _ => trivial
  refine (Service.Runs.invariantFrom ?_ (fun _ order => order.elim) run obedient (.inl rfl)).1
  intro here ledger here' ledger' change _ sent
  cases change with
  | environment evolved =>
    exact sent.quiet ⟨List.Subset.refl _, List.Subset.refl _,
        sent_of_evolves (Relation.ReflTransGen.single evolved)⟩
  | boot order => exact order.elim
  | perform kept => exact kept.sent sent
  | stop => exact sent

/--
In every run of a leg, planned or with a new quote, and for all answers: nothing was sent,
or what was sent is contained and belongs to a quote that fits the terms of the leg.  What
is signed for a call that was sent is that call.
-/
theorem untrusted_quotes_are_contained
    (order : LegOrder)
    {last : Config intentInterface String Dealings Ledger}
    (run : (intentService takes).Runs Service.Permit.anything
      (legStart runtime chains order) last) :
    (last.world.sent = [] ∨ ∃ quote input, order.Brings runtime last.here quote ∧
          Fits runtime.formats order.terms quote input ∧
          Contained runtime chains order.terms input last.world.sent) ∧
      ∀ call ∈ last.world.sent, ∀ lib endpoints,
        (EvmSend.sendTxRobust lib endpoints call.request call.label).Only
          (EvmSend.Signs call.request) := by
  apply And.intro
  · rcases Runs.legSent run with nothing | ⟨quote, input, brings, fits, calls, within, sent⟩
    · exact .inl nothing
    · rw [List.nil_append] at sent
      exact .inr ⟨quote, input, brings, fits, sent ▸ within.contained⟩
  · intro call _ lib endpoints
    exact EvmSend.sendTxRobust_signs endpoints call.label

open Sample in
/-- The result at a leg of a token: its approval and its deposit were sent. -/
theorem fulfilled_leg_is_contained : ∃ last : Config intentInterface String Dealings Ledger,
      last.world.sent.length = 2 ∧ ∃ quote input,
          (LegOrder.fresh sampleLeg).Brings Sample.runtime last.here quote ∧
            Fits Sample.formats sampleLeg.terms quote input ∧
            Contained Sample.runtime Sample.chains sampleLeg.terms input last.world.sent := by
  obtain ⟨last, run, passed⟩ := @Responder.exists_run _ _ _ _ _ _ _ _ (responder fun _ _ => true)
      Service.Permit.anything _
      (legStart Sample.runtime Sample.chains (.fresh sampleLeg))
      [.answer sampleServer 9]
      (fun last => decide (last.world.sent.length = 2))
      (by decide +kernel)
  have sent : last.world.sent.length = 2 := of_decide_eq_true passed
  refine ⟨last, sent, ?_⟩
  rcases (untrusted_quotes_are_contained (.fresh sampleLeg) run).1 with nothing | contained
  · rw [nothing] at sent
    cases sent
  · exact contained

end Axe.Intents

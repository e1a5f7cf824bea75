import Axe.IntentWorld

namespace Axe.Intents

open Hardened (Address U64 U256 TransactionRequest)

/-!
# What a leg sends

The contract of a leg: what was sent after it started is empty, or it is at most one
approval and at most one deposit for a quote that fits the terms of the leg.
-/

variable {takes : Takes} {promise : Promise Dealings Ledger}
variable {runtime : IntentRuntime} {chains : List (String × ChainRuntime)}
variable {here : Dealings} {ledger : Ledger}

/-- The transaction of an action, as it is sent. -/
def Issues (runtime : IntentRuntime) (chains : List (String × ChainRuntime)) (source : WalletAsset)
    (action : Action) (label : String) (call : SentCall) : Prop :=
  ∃ chain request, chains.lookup source.id.chainId = some chain ∧
      actionRequest runtime.formats action runtime.signer source.id.chainId = .ok request ∧
      call = ⟨chain.rpcUrl, request, label⟩

def ApprovalCall (runtime : IntentRuntime) (chains : List (String × ChainRuntime))
    (terms : LegTerms) (call : SentCall) : Prop :=
  terms.source.native = false ∧ ∃ chain chainId token amount,
      chains.lookup terms.source.id.chainId = some chain ∧
        parseChainId terms.source.id.chainId = .ok chainId ∧
        runtime.formats.parseAddress terms.source.id.tokenAddress = some token ∧
        call =
          { rpcUrl := chain.rpcUrl
            label := approvalLabel
            request :=
              { chainId := some chainId
                fromAddress := some runtime.signer
                destination := some (.call token)
                input := some (approveCalldata terms.settlementContract amount)
                value := some 0 } }

/-- A call of the settlement contract with the input as its value, if that is native. -/
def DepositCall (runtime : IntentRuntime) (chains : List (String × ChainRuntime)) (terms : LegTerms)
    (input : U256) (call : SentCall) : Prop :=
  ∃ chain chainId data, chains.lookup terms.source.id.chainId = some chain ∧
      parseChainId terms.source.id.chainId = .ok chainId ∧
      call =
        { rpcUrl := chain.rpcUrl
          label := depositLabel
          request :=
            { chainId := some chainId
              fromAddress := some runtime.signer
              destination := some (.call terms.settlementContract)
              input := some data
              value := some (if terms.source.native then input else 0) } }

theorem data_of_hexEncode (bytes : Bytes) :
    hexDecodeLoose ((afterStart "0x" ("0x" ++ hexEncode bytes)).getD ("0x" ++ hexEncode bytes)) =
      some bytes := by
  rw [afterStart_append, Option.getD_some, hexDecodeLoose_hexEncode]

variable {terms : LegTerms} {input : U256} {requirement : ApprovalRequirement} {call : SentCall}

theorem approvalCall_of_issues {action bounded : Action} {approved : U256}
    (required : approvalRequirement runtime.formats action terms.source input = .ok requirement)
    (spender : requirement.spender = terms.settlementContract)
    (rewritten : approvalAction action requirement approved = .ok bounded)
    (issues : Issues runtime chains terms.source bounded approvalLabel call) :
    ApprovalCall runtime chains terms call := by
  obtain ⟨notNative, payload, token, shape, targetRead, tokenRead, valueRead⟩ :=
    approvalRequirement_ok required
  obtain ⟨chain, request, known, built, rfl⟩ := issues
  obtain ⟨target, data, value, chainId, target', data', value', chainRead, rfl⟩ :=
    actionRequest_ok (approvalAction_ok shape rewritten) built
  have sameTarget : token = target := Option.some.inj (targetRead.symm.trans target')
  have sameValue : 0 = value := Option.some.inj (valueRead.symm.trans value')
  have sameData : approveCalldata requirement.spender approved = data := by
    rw [data_of_hexEncode] at data'
    exact Option.some.inj data'
  subst sameTarget sameValue sameData
  rw [spender]
  exact ⟨notNative, chain, chainId, token, approved, known, chainRead, tokenRead, rfl⟩

theorem depositCall_of_issues {deposit : Action}
    (checked : validateDepositAction runtime.formats deposit terms.source input =
        .ok terms.settlementContract)
    (issues : Issues runtime chains terms.source deposit depositLabel call) :
    DepositCall runtime chains terms input call := by
  obtain ⟨payload, shape, targetRead, valueRead⟩ := validateDepositAction_ok checked
  obtain ⟨chain, request, known, built, rfl⟩ := issues
  obtain ⟨target, data, value, chainId, target', _, value', chainRead, rfl⟩ :=
    actionRequest_ok shape built
  have sameTarget : terms.settlementContract = target :=
    Option.some.inj (targetRead.symm.trans target')
  have sameValue : (if terms.source.native then input else 0) = value :=
    Option.some.inj (valueRead.symm.trans value')
  subst sameTarget sameValue
  exact ⟨chain, chainId, data, known, chainRead, rfl⟩

theorem connectChain_yields (source : WalletAsset) : (connectChain chains source).Yields Call.Silent
      fun rpcUrl => ∃ chain, chains.lookup source.id.chainId = some chain ∧
        rpcUrl = chain.rpcUrl := by
  apply Program.Yields.orFail_bind
  intro chain known
  apply Program.Yields.ask_bind trivial
  intro connected
  cases connected with
  | error error => trivial
  | ok done => exact ⟨chain, known, rfl⟩

variable {source : WalletAsset}

theorem executeActions_meets {action : Action} {label : String}
    (stutter : ∀ here ledger, promise here ledger here ledger)
    (issued : ∀ call later, Issues runtime chains source action label call →
        later.sent = ledger.sent →
        promise here later here { later with sent := ledger.sent ++ [call] }) :
    Meets (dealMachine takes) promise
      (executeActions runtime chains source [action] label)
      (fun _ here' later =>
        here' = here ∧ ∃ call, Issues runtime chains source action label call ∧
            later.sent = ledger.sent ++ [call])
      (fun _ here' later =>
        here' = here ∧ (later.sent = ledger.sent ∨
            ∃ call, Issues runtime chains source action label call ∧
              later.sent = ledger.sent ++ [call])) here ledger := by
  have connecting : Meets (dealMachine takes) promise (connectChain chains source)
        (fun rpcUrl here' later =>
          here' = here ∧ (dealMachine takes).Evolves ledger later ∧
            ∃ chain, chains.lookup source.id.chainId = some chain ∧ rpcUrl = chain.rpcUrl)
        (fun _ here' later => here' = here ∧ (dealMachine takes).Evolves ledger later)
        here ledger :=
    (connectChain_yields source).meets (fun _ => reads_of_silent) stutter
  apply connecting.andThen
  · intro error here' later reached
    exact ⟨reached.1, .inl (sent_of_evolves reached.2)⟩
  · rintro rpcUrl here' later ⟨rfl, evolved, chain, known, rfl⟩
    have same := sent_of_evolves evolved
    apply Meets.check_bind
    · intro request built last moved reply _
      have issues : Issues runtime chains source action label ⟨chain.rpcUrl, request, label⟩ :=
        ⟨chain, request, known, built, rfl⟩
      have still : last.sent = ledger.sent := (sent_of_evolves moved).trans same
      have kept := issued _ last issues still
      rw [← still] at kept ⊢
      apply And.intro kept
      cases reply with
      | error error => exact ⟨rfl, .inr ⟨_, issues, rfl⟩⟩
      | ok receipt =>
        apply Meets.ensure_bind
        · intro _
          exact ⟨rfl, _, issues, rfl⟩
        · intro _
          exact ⟨rfl, .inr ⟨_, issues, rfl⟩⟩
    · intro error _
      exact ⟨rfl, .inl same⟩

theorem requiredApprovals_yields {approval : Action}
    (required : approvalRequirement runtime.formats approval source input = .ok requirement) :
    (requiredApprovals runtime chains source [approval] input none).Yields Call.Silent
      fun needed =>
        needed = [] ∨ ∃ bounded approved,
            approvalAction approval requirement approved = .ok bounded ∧ needed = [bounded] := by
  apply (connectChain_yields source).bind
  intro rpcUrl _
  apply Program.Yields.check_bind
  intro token _
  apply Program.Yields.check_bind
  intro found same
  rw [required] at same
  cases same
  apply Program.Yields.ask_bind trivial
  intro read
  apply Program.Yields.check_bind
  intro allowance _
  apply Program.Yields.ensure_bind
  intro _
  split
  · apply Program.Yields.check_bind
    intro bounded rewritten
    exact .inr ⟨bounded, _, rewritten, rfl⟩
  · exact .inl rfl

def Since (base : List SentCall) (holds : List SentCall → Prop) (ledger : Ledger) : Prop :=
  ∃ calls, holds calls ∧ ledger.sent = base ++ calls

variable {base : List SentCall}

theorem Since.same {holds : List SentCall → Prop} {later : Ledger} (since : Since base holds ledger)
    (same : later.sent = ledger.sent) :
    Since base holds later := by
  obtain ⟨calls, kept, sent⟩ := since
  exact ⟨calls, kept, same.trans sent⟩

def Approved (runtime : IntentRuntime) (chains : List (String × ChainRuntime)) (terms : LegTerms)
    (calls : List SentCall) : Prop :=
  calls.length ≤ 1 ∧ ∀ call ∈ calls, ApprovalCall runtime chains terms call

theorem since_approved_nil (same : ledger.sent = base) :
    Since base (Approved runtime chains terms) ledger :=
  ⟨[], ⟨Nat.zero_le 1, by simp⟩, by simpa using same⟩

theorem since_approved_single (approves : ApprovalCall runtime chains terms call)
    (sent : ledger.sent = base ++ [call]) :
    Since base (Approved runtime chains terms) ledger :=
  ⟨[call], ⟨Nat.le_refl 1, by simpa using approves⟩, sent⟩

variable {quote : Quote}

theorem ensureInputApproval_meets
    (settled : validateQuoteActions runtime.formats quote terms.source input =
        .ok terms.settlementContract) (stutter : ∀ here ledger, promise here ledger here ledger)
    (issued : ∀ call later, ApprovalCall runtime chains terms call → later.sent = ledger.sent →
        promise here later here { later with sent := ledger.sent ++ [call] }) :
    Meets (dealMachine takes) promise
      (ensureInputApproval runtime chains terms.source quote input)
      (fun _ here' later =>
        here' = here ∧ Since ledger.sent (Approved runtime chains terms) later)
      (fun _ here' later =>
        here' = here ∧ Since ledger.sent (Approved runtime chains terms) later)
      here ledger := by
  unfold ensureInputApproval
  rcases (validateQuoteActions_ok settled).2 with
    absent | ⟨approval, requirement, single, required, spender⟩
  · rw [absent, if_pos rfl]
    exact ⟨rfl, since_approved_nil rfl⟩
  rw [single, if_neg (List.cons_ne_nil _ _)]
  refine ((requiredApprovals_yields required).meets
    (fun _ => reads_of_silent) stutter).andThen ?_ ?_
  · intro error here' later reached
    exact ⟨reached.1, since_approved_nil (sent_of_evolves reached.2)⟩
  rintro needed here' later ⟨rfl, evolved, outcome⟩
  have same := sent_of_evolves evolved
  rcases outcome with rfl | ⟨bounded, approved, rewritten, rfl⟩
  · rw [if_pos rfl]
    exact ⟨rfl, since_approved_nil same⟩
  rw [if_neg (List.cons_ne_nil _ _)]
  have approves : ∀ call, Issues runtime chains terms.source bounded approvalLabel call →
        ApprovalCall runtime chains terms call :=
    fun call issues => approvalCall_of_issues required spender rewritten issues
  rw [← same] at issued ⊢
  refine (executeActions_meets stutter fun call last issues still =>
    issued call last (approves call issues) still).andThen ?_ ?_
  · rintro error last final ⟨rfl, sent | ⟨call, issues, sent⟩⟩
    · exact ⟨rfl, since_approved_nil sent⟩
    · exact ⟨rfl, since_approved_single (approves call issues) sent⟩
  rintro _ last final ⟨rfl, call, issues, sent⟩
  apply Meets.read_bind reads_now stutter
  intro moved evolved' now _
  have ends : Since later.sent (Approved runtime chains terms) moved :=
    since_approved_single (approves call issues) ((sent_of_evolves evolved').trans sent)
  cases Check.context _ (validateQuoteLifetime runtime.formats quote now) with
  | ok done => exact ⟨rfl, ends⟩
  | error error => exact ⟨rfl, ends⟩

def DepositOf (runtime : IntentRuntime) (chains : List (String × ChainRuntime))
    (source : WalletAsset) (quote : Quote) (call : SentCall) : Prop :=
  ∃ deposit, quote.actionsOf .transaction = [deposit] ∧
      Issues runtime chains source deposit depositLabel call

def QuoteCalls (runtime : IntentRuntime) (chains : List (String × ChainRuntime)) (terms : LegTerms)
    (quote : Quote) (input : U256) (calls : List SentCall) : Prop :=
  ∃ approvals deposits, calls = approvals ++ deposits ∧ Approved runtime chains terms approvals ∧
      deposits.length ≤ 1 ∧
      ∀ call ∈ deposits, DepositCall runtime chains terms input call ∧
          DepositOf runtime chains terms.source quote call

variable {approvals : List SentCall}

theorem quoteCalls_of_approved (approved : Approved runtime chains terms approvals) :
    QuoteCalls runtime chains terms quote input approvals :=
  ⟨approvals, [], by simp, approved, Nat.zero_le 1, by simp⟩

theorem quoteCalls_deposit (approved : Approved runtime chains terms approvals)
    (deposits : DepositCall runtime chains terms input call)
    (belongs : DepositOf runtime chains terms.source quote call) :
    QuoteCalls runtime chains terms quote input (approvals ++ [call]) :=
  ⟨approvals, [call], rfl, approved, Nat.le_refl 1, by simpa using ⟨deposits, belongs⟩⟩

theorem submitSelectedLeg_meets
    (settled : validateQuoteActions runtime.formats quote terms.source input =
        .ok terms.settlementContract) (stutter : ∀ here ledger, promise here ledger here ledger)
    (issued : ∀ calls later, QuoteCalls runtime chains terms quote input calls →
        promise here later here { later with sent := ledger.sent ++ calls }) :
    Meets (dealMachine takes) promise
      (submitSelectedLeg runtime chains terms.source terms.destination quote input)
      (fun submitted here' later =>
        here' = here ∧ submitted = ⟨terms.destination, quote, input⟩ ∧
          Since ledger.sent (QuoteCalls runtime chains terms quote input) later)
      (fun _ here' later =>
        here' = here ∧ Since ledger.sent (QuoteCalls runtime chains terms quote input) later)
      here ledger := by
  obtain ⟨deposit, single, checked⟩ := (validateQuoteActions_ok settled).1
  refine (ensureInputApproval_meets settled stutter fun call later approves _ =>
    issued [call] later (quoteCalls_of_approved ⟨Nat.le_refl 1, by simpa using approves⟩)).andThen
      ?_ ?_
  · rintro error here' later ⟨rfl, calls, approved, sent⟩
    exact ⟨rfl, calls, quoteCalls_of_approved approved, sent⟩
  rintro _ here' later ⟨rfl, approvals, approved, sent⟩
  have before : Since ledger.sent (QuoteCalls runtime chains terms quote input) later :=
    ⟨approvals, quoteCalls_of_approved approved, sent⟩
  apply Meets.check_bind
  · intro chosen found
    cases depositAction_eq_ok single found
    have deposited : ∀ call, Issues runtime chains terms.source deposit depositLabel call →
        QuoteCalls runtime chains terms quote input (approvals ++ [call]) :=
      fun call issues =>
        quoteCalls_deposit approved (depositCall_of_issues checked issues) ⟨deposit, single, issues⟩
    have after : ∀ call final, Issues runtime chains terms.source deposit depositLabel call →
        final.sent = later.sent ++ [call] →
        Since ledger.sent (QuoteCalls runtime chains terms quote input) final := by
      intro call final issues grown
      refine ⟨approvals ++ [call], deposited call issues, ?_⟩
      rw [grown, sent, List.append_assoc]
    refine (executeActions_meets stutter fun call last issues _ => ?_).andThen ?_ ?_
    · rw [sent, List.append_assoc]
      exact issued _ last (deposited call issues)
    · rintro error last final ⟨rfl, same | ⟨call, issues, grown⟩⟩
      · exact ⟨rfl, before.same same⟩
      · exact ⟨rfl, after call final issues grown⟩
    rintro hash last final ⟨rfl, call, issues, grown⟩
    apply Meets.orFail_bind
    · intro _ _
      exact ⟨rfl, rfl, after call final issues grown⟩
    · intro _
      exact ⟨rfl, after call final issues grown⟩
  · intro error _
    exact ⟨rfl, before⟩

theorem offers_of_selectQuote {request : QuoteRequest} {answer : QuoteAnswer}
    (selected : selectQuote answer = .ok (.available quote)) :
    (request, quote) ∈ QuoteAnswer.offers request answer := by
  cases answer with
  | failed error => cases selected
  | unprocessable message => cases selected
  | quotes answered =>
    simp only [selectQuote] at selected
    split at selected
    · rename_i found search
      cases selected
      exact List.mem_map.mpr ⟨_, List.mem_of_find?_eq_some search, rfl⟩
    · cases selected

theorem report_of_statusOutcome {expected : WalletAsset} {status : StatusResponse}
    {output : StatusOutput}
    (outcome : statusOutcome runtime quote expected status = .ok (some output)) :
    (status.quoteId, output) ∈ status.report := by
  unfold statusOutcome at outcome
  split at outcome
  · rename_i isDone
    simp only [Check.bind_eq_ok, Check.orError_eq_ok] at outcome
    obtain ⟨found, present, _, _, ends⟩ := outcome
    cases ends
    simp [StatusResponse.report, isDone, present]
  all_goals cases outcome

section Quiet

variable (quiet :
  ∀ {here ledger here' ledger'}, Quiet here ledger here' ledger' →
    promise here ledger here' ledger')

include quiet

theorem clientQuote_meets (request : QuoteRequest) :
    Meets (dealMachine takes) promise (clientQuote request)
      (fun outcome here' later =>
        Quiet here ledger here' later ∧
          ∀ quote, outcome = .available quote → (request, quote) ∈ here'.offered)
      (fun _ here' later => Quiet here ledger here' later) here ledger := by
  intro later evolved answer _
  have noted : Quiet here later
        { here with offered := here.offered ++ QuoteAnswer.offers request answer } later :=
    ⟨List.subset_append_left _ _, List.Subset.refl _, rfl⟩
  have since : Quiet here ledger
        { here with offered := here.offered ++ QuoteAnswer.offers request answer } later :=
    ⟨noted.offered, noted.reported, sent_of_evolves evolved⟩
  apply And.intro (quiet noted)
  apply Meets.check
  · rintro outcome selected
    refine ⟨since, ?_⟩
    rintro quote rfl
    exact List.mem_append_right _ (offers_of_selectQuote selected)
  · exact fun _ _ => since

theorem requireQuote_meets (request : QuoteRequest) :
    Meets (dealMachine takes) promise (requireQuote request)
      (fun quote here' later =>
        Quiet here ledger here' later ∧ (request, quote) ∈ here'.offered)
      (fun _ here' later => Quiet here ledger here' later) here ledger := by
  apply (clientQuote_meets quiet request).andThen
  · exact fun _ _ _ since => since
  rintro outcome here' later ⟨since, offered⟩
  cases outcome with
  | available quote => exact ⟨since, offered quote rfl⟩
  | unavailable reason => exact since

theorem readStatus_meets (quote : Quote) (expected : WalletAsset) (seen : StatusSeen) :
    Meets (dealMachine takes) promise (readStatus runtime quote expected seen)
      (fun outcome here' later =>
        Quiet here ledger here' later ∧
          ∀ output, outcome.1 = some output → (quote.quoteId, output) ∈ here'.reported)
      (fun _ here' later => Quiet here ledger here' later) here ledger := by
  intro later evolved answer _
  have same := sent_of_evolves evolved
  cases answer with
  | error error =>
    exact ⟨quiet (Quiet.refl here later), ⟨List.Subset.refl _, List.Subset.refl _, same⟩,
      fun output absent => by cases absent⟩
  | ok status =>
    have noted : Quiet here later { here with reported := here.reported ++ status.report } later :=
      ⟨List.Subset.refl _, List.subset_append_left _ _, rfl⟩
    have since : Quiet here ledger { here with reported := here.reported ++ status.report } later :=
      ⟨noted.offered, noted.reported, same⟩
    apply And.intro (quiet noted)
    apply Meets.ensure_bind
    · intro sameId
      apply Meets.check_bind
      · intro refundTx _
        apply Meets.check_bind
        · intro found outcome
          refine ⟨since, ?_⟩
          rintro output rfl
          exact List.mem_append_right _ (sameId ▸ report_of_statusOutcome outcome)
        · exact fun _ _ => since
      · exact fun _ _ => since
    · exact fun _ => since

theorem pollStatus_meets (quote : Quote) (expected : WalletAsset) (polls : Nat)
    (seen : StatusSeen) :
    Meets (dealMachine takes) promise (pollStatus runtime quote expected polls seen)
      (fun output here' later =>
        Quiet here ledger here' later ∧ (quote.quoteId, output) ∈ here'.reported)
      (fun _ here' later => Quiet here ledger here' later) here ledger := by
  induction polls generalizing here ledger seen with
  | zero =>
    apply (readStatus_meets quiet quote expected seen).andThen
    · exact fun _ _ _ since => since
    rintro ⟨found, seen'⟩ here' later ⟨since, reported⟩
    cases found with
    | some output => exact ⟨since, reported output rfl⟩
    | none => exact since
  | succ polls ih =>
    apply (readStatus_meets quiet quote expected seen).andThen
    · exact fun _ _ _ since => since
    rintro ⟨found, seen'⟩ here' later ⟨since, reported⟩
    cases found with
    | some output => exact ⟨since, reported output rfl⟩
    | none =>
      apply (ih seen').weaken
      · rintro output last final ⟨after, member⟩
        exact ⟨since.trans after, member⟩
      · exact fun _ _ _ after => since.trans after

theorem finishSubmittedIntent_meets (submitted : SubmittedIntent) :
    Meets (dealMachine takes) promise (finishSubmittedIntent runtime submitted)
      (fun result here' later =>
        Quiet here ledger here' later ∧ result.inputAmount = submitted.inputAmount ∧ ∃ output,
            (submitted.selected.quoteId, output) ∈ here'.reported ∧
              runtime.formats.parseU256 output.amount = some result.outputAmount)
      (fun _ here' later => Quiet here ledger here' later) here ledger := by
  have stutter : ∀ here ledger, promise here ledger here ledger :=
    fun here ledger => quiet (Quiet.refl here ledger)
  apply Meets.read_bind reads_now stutter
  intro moved evolved now _
  apply Meets.read_bind (reads_polls _) stutter
  intro moved' evolved' polls _
  have start : Quiet here ledger here moved' :=
    ⟨List.Subset.refl _, List.Subset.refl _, sent_of_evolves (evolved.trans evolved')⟩
  apply (pollStatus_meets quiet submitted.selected submitted.destination polls _).andThen
  · exact fun _ _ _ after => start.trans after
  rintro output here' later ⟨after, member⟩
  apply Meets.check_bind
  · intro amount parsed
    exact ⟨start.trans after, rfl, output, member, parseAmount_eq_ok.mp parsed⟩
  · exact fun _ _ => start.trans after

end Quiet

end Axe.Intents

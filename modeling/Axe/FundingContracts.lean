import Axe.KeyFunding

namespace Axe.LoadTesting

open Hardened (Address)

/-!
# What a preparation leaves on the keys

Nothing that happens during the preparation takes funds away from a derived key, so
each of its phases is looked at alone: a key that was looked at holds what the phase
asks for, from before or because it was topped up.
-/

section Growth

variable {main : Address} {node : SourceNode}

namespace Ledger

variable {before middle after : Ledger}

theorem Grows.refl (ledger : Ledger) : ledger.Grows main ledger := by
  intro account _
  exact ⟨le_rfl, le_rfl⟩

theorem Grows.trans (first : before.Grows main middle) (second : middle.Grows main after) :
    before.Grows main after := by
  intro account other
  exact ⟨(first account other).1.trans (second account other).1,
    (first account other).2.trans (second account other).2⟩

variable {ledger : Ledger}

theorem funds_pay {payer : Address} {fee : Nat} (covered : fee ≤ ledger.native payer)
    (account : Address) :
    (ledger.pay payer fee).funds account = ledger.funds account := by
  by_cases same : account = payer
  · subst same
    simp [funds, pay]
    omega
  · simp [funds, pay, same]

theorem funds_moveNative {receiver account : Address} {amount : Nat} (other : account ≠ main) :
    (ledger.moveNative main receiver amount).funds account =
      ledger.funds account + if account = receiver then amount else 0 := by
  by_cases same : account = receiver
  · subst same
    simp [funds, moveNative, other]
    omega
  · simp [funds, moveNative, other, same]

theorem token_moveToken {receiver account : Address} {amount : Nat} (other : account ≠ main) :
    (ledger.moveToken main receiver amount).token account =
      ledger.token account + if account = receiver then amount else 0 := by
  by_cases same : account = receiver
  · subst same
    simp [moveToken, other]
  · simp [moveToken, other, same]

end Ledger

variable {op : FundingCall}

theorem grows_fundingReacts {ledger : Ledger} {reply : op.Reply}
    (answered : fundingAnswers main node ledger op reply) :
    ledger.Grows main (fundingReacts main op reply ledger) := by
  intro account other
  cases op with
  | sendNative receiver amount =>
    cases reply with
    | none => exact ⟨le_rfl, le_rfl⟩
    | some fee =>
      have covered : fee ≤ ledger.native main := by
        have spent := answered fee rfl
        omega
      refine ⟨?_, le_rfl⟩
      rw [fundingReacts, Ledger.funds_moveNative other, Ledger.funds_pay covered]
      exact Nat.le_add_right _ _
  | transferToken receiver amount =>
    match reply with
    | none => exact ⟨le_rfl, le_rfl⟩
    | some (true, fee) =>
      have covered : fee ≤ ledger.native main := (answered (true, fee) rfl).1
      constructor
      · exact (Ledger.funds_pay covered account).ge
      · rw [fundingReacts, Ledger.token_moveToken other]
        exact Nat.le_add_right _ _
    | some (false, fee) =>
      have covered : fee ≤ ledger.native main := (answered (false, fee) rfl).1
      exact ⟨(Ledger.funds_pay covered account).ge, le_rfl⟩
  | approve holder =>
    cases reply with
    | none => exact ⟨le_rfl, le_rfl⟩
    | some fee => exact ⟨(Ledger.funds_pay (answered fee rfl) account).ge, le_rfl⟩
  | _ => exact ⟨le_rfl, le_rfl⟩

variable {before after : Ledger}

theorem grows_of_evolves (evolved : (fundingMachine main node).Evolves before after) :
    before.Grows main after := by
  induction evolved with
  | refl => exact .refl _
  | tail _ step ih => exact ih.trans step

theorem executes_grows {Value : Type} {program : Preparing Value}
    {result : Except FundingError Value} {here here' : Unit}
    (executes : Executes (fundingMachine main node) program here before result here' after) :
    before.Grows main after := by
  induction executes with
  | done => exact .refl _
  | fail => exact .refl _
  | call reply evolved allowed _ ih =>
    exact ((grows_of_evolves evolved).trans (grows_fundingReacts allowed)).trans ih

theorem need_ok {Value : Type} {unpack : op.Reply → Option Value} {error : FundingError}
    {value : Value} {here here' : Unit}
    (executes : Executes (fundingMachine main node) (need op unpack error) here before
        (.ok value) here' after) :
    ∃ middle reply, before.Grows main middle ∧ fundingAnswers main node middle op reply ∧
        unpack reply = some value ∧ fundingReacts main op reply middle = after := by
  cases executes with
  | call reply evolved allowed rest =>
    rcases rest.orFail_ok with ⟨found, _, same⟩
    exact ⟨_, reply, grows_of_evolves evolved, allowed, found, same⟩

end Growth

section Phases

variable {main : Address} {node : SourceNode} {here here' : Unit} {before after : Ledger}

variable {toFund : List ((Address × Nat) × Nat)}

theorem keysToFund_ok {minNeeded target : Nat} {keys : List (Address × Nat)}
    (executes :
      Executes (fundingMachine main node) (keysToFund main minNeeded target keys) here before
        (.ok toFund) here' after) :
    (∀ missing ∈ toFund, missing.1.1 ≠ main) ∧ ∀ key ∈ keys, key.1 ≠ main →
        minNeeded ≤ after.funds key.1 ∨
          ∃ amount, (key, amount) ∈ toFund ∧ target ≤ after.funds key.1 + amount := by
  induction keys generalizing here here' before after toFund with
  | nil =>
    cases executes
    simp
  | cons key rest ih =>
    rcases key with ⟨address, index⟩
    by_cases own : address = main
    · simp only [keysToFund, own, if_true] at executes
      rcases ih executes with ⟨others, listed⟩
      refine ⟨others, ?_⟩
      intro key member other
      rcases List.mem_cons.mp member with rfl | member
      · exact absurd own other
      · exact listed key member other
    · simp only [keysToFund, own, if_false, Program.bind_eq] at executes
      rcases executes.bind_ok with ⟨balance, _, middle, reading, continues⟩
      rcases continues.bind_ok with ⟨_, _, _, checking, continues⟩
      rcases checking.ensure_ok with ⟨_, _, rfl⟩
      rcases continues.bind_ok with ⟨missing, _, later, collecting, ending⟩
      rcases ih collecting with ⟨others, listed⟩
      rcases need_ok reading with ⟨moved, reply, _, answered, found, rfl⟩
      have held : balance ≤ later.funds address := by
        have read : balance = moved.native address := answered balance found
        have kept := (executes_grows collecting address own).1
        have counted : moved.native address ≤ moved.funds address := Nat.le_add_right _ _
        have same : fundingReacts main (.balance address) reply moved = moved := rfl
        rw [same] at kept
        omega
      by_cases low : balance < minNeeded
      · rw [if_pos low] at ending
        cases ending
        constructor
        · intro entry member
          rcases List.mem_cons.mp member with rfl | member
          · exact own
          · exact others entry member
        · intro key member other
          rcases List.mem_cons.mp member with rfl | member
          · exact .inr ⟨_, List.mem_cons_self, by simp only; omega⟩
          · rcases listed key member other with enough | ⟨amount, entry, fills⟩
            · exact .inl enough
            · exact .inr ⟨amount, List.mem_cons_of_mem _ entry, fills⟩
      · rw [if_neg low] at ending
        cases ending
        refine ⟨others, ?_⟩
        intro key member other
        rcases List.mem_cons.mp member with rfl | member
        · exact .inl ((not_lt.mp low).trans held)
        · exact listed key member other

variable {done : Unit}

theorem fundKeys_ok (others : ∀ missing ∈ toFund, missing.1.1 ≠ main)
    (executes : Executes (fundingMachine main node) (Program.each fundKey toFund) here before
        (.ok done) here' after) :
    ∀ missing ∈ toFund, before.funds missing.1.1 + missing.2 ≤ after.funds missing.1.1 := by
  induction toFund generalizing here before with
  | nil => simp
  | cons missing rest ih =>
    rcases executes.bind_ok with ⟨_, _, funded, funding, continues⟩
    have kept :=
      ih (fun entry member => others entry (List.mem_cons_of_mem _ member))
        continues
    intro entry member
    rcases List.mem_cons.mp member with rfl | member
    · have other := others _ List.mem_cons_self
      simp only [fundKey, Program.bind_eq] at funding
      rcases funding.bind_ok with ⟨fee, _, _, sending, ending⟩
      cases ending
      rcases need_ok sending with ⟨moved, reply, grown, answered, found, rfl⟩
      have sent : reply = some fee := found
      subst sent
      have covered : fee ≤ moved.native main := by
        have spent : entry.2 + fee ≤ moved.native main := answered fee rfl
        omega
      have arrived := (executes_grows continues entry.1.1 other).1
      rw [fundingReacts, Ledger.funds_moveNative other, Ledger.funds_pay covered, if_pos rfl]
        at arrived
      have before := (grown entry.1.1 other).1
      omega
    · have earlier := (executes_grows funding entry.1.1 (others _ (List.mem_cons_of_mem _ member))).1
      have later := kept entry member
      omega

variable {derived : List Address}

theorem ensureFundedEvmWithExtra_ok {extra : Nat} (fits : targetWeiPerKey + extra < 2 ^ 128)
    (executes :
      Executes (fundingMachine main node) (ensureFundedEvmWithExtra main derived extra) here
        before (.ok done) here' after) {account : Address} (derives : account ∈ derived)
    (other : account ≠ main) :
    minWeiPerKey + extra ≤ after.funds account := by
  have ordered : minWeiPerKey ≤ targetWeiPerKey := by decide
  have minFits : (minWeiPerKey + extra) % 2 ^ 128 = minWeiPerKey + extra :=
    Nat.mod_eq_of_lt (lt_of_le_of_lt (Nat.add_le_add_right ordered _) fits)
  have targetFits : (targetWeiPerKey + extra) % 2 ^ 128 = targetWeiPerKey + extra :=
    Nat.mod_eq_of_lt fits
  simp only [ensureFundedEvmWithExtra, Program.bind_eq, minFits, targetFits] at executes
  rcases executes.bind_ok with ⟨_, _, _, checking, continues⟩
  rcases checking.ensure_ok with ⟨_, _, rfl⟩
  rcases continues.bind_ok with ⟨toFund, _, checked, collecting, continues⟩
  rcases keysToFund_ok collecting with ⟨others, listed⟩
  rcases List.mem_iff_getElem?.mp derives with ⟨index, found⟩
  have member : (account, index) ∈ derived.zipIdx := List.mem_zipIdx_iff_getElem?.mpr found
  have kept := (executes_grows continues account other).1
  rcases listed _ member other with enough | ⟨amount, entry, fills⟩
  · exact enough.trans kept
  · have some : toFund.isEmpty = false := by
      cases toFund with
      | nil => simp at entry
      | cons first rest => rfl
    simp only [some, Bool.false_eq_true, if_false] at continues
    rcases continues.bind_ok with ⟨_, _, _, reading, continues⟩
    rcases continues.bind_ok with ⟨_, _, _, narrow, continues⟩
    rcases continues.bind_ok with ⟨_, _, _, covered, continues⟩
    rcases continues.bind_ok with ⟨_, _, ready, detecting, funding⟩
    have arrived := fundKeys_ok others funding _ entry
    have first := (executes_grows reading account other).1
    have second := (executes_grows narrow account other).1
    have third := (executes_grows covered account other).1
    have fourth := (executes_grows detecting account other).1
    simp only at arrived fills
    omega

theorem distributeToKey_ok {amountPerKey : Nat} {key : Address × Nat}
    (executes :
      Executes (fundingMachine main node) (distributeToKey main amountPerKey key) here before
        (.ok done) here' after) (other : key.1 ≠ main) :
    amountPerKey ≤ after.token key.1 := by
  simp only [distributeToKey, other, if_false] at executes
  cases executes with
  | @call _ _ _ _ _ moved _ _ reply evolved allowed rest =>
    by_cases enough : amountPerKey ≤ reply.getD 0
    · simp only [enough, if_true] at rest
      cases rest
      cases reply with
      | none => exact enough.trans (Nat.zero_le _)
      | some value =>
        have read : value = moved.token key.1 := allowed value rfl
        exact read ▸ enough
    · simp only [enough, if_false] at rest
      rcases Executes.bind_ok rest with ⟨receipt, _, _, sending, checking⟩
      rcases checking.ensure_ok with ⟨landed, _, rfl⟩
      rcases need_ok sending with ⟨ledger, reply, _, _, found, rfl⟩
      have sent : reply = some (true, receipt.2) := by
        rw [← landed]
        exact found
      subst sent
      rw [fundingReacts, Ledger.token_moveToken other, if_pos rfl]
      exact Nat.le_add_left _ _

theorem distributeTokens_ok {amountPerKey : Nat}
    (executes :
      Executes (fundingMachine main node) (distributeTokens main derived amountPerKey) here
        before (.ok done) here' after) {account : Address} (derives : account ∈ derived)
    (other : account ≠ main) :
    amountPerKey ≤ after.token account := by
  rcases List.mem_iff_getElem?.mp derives with ⟨index, found⟩
  have member : (account, index) ∈ derived.zipIdx := List.mem_zipIdx_iff_getElem?.mpr found
  unfold distributeTokens at executes
  generalize derived.zipIdx = keys at executes member
  induction keys generalizing here before with
  | nil => simp at member
  | cons key rest ih =>
    rcases executes.bind_ok with ⟨_, _, given, giving, continues⟩
    rcases List.mem_cons.mp member with rfl | member
    · exact (distributeToKey_ok giving other).trans (executes_grows continues account other).2
    · exact ih continues member

end Phases

/-!
## What a route leaves on its keys
-/

/-- The amounts that a route computes for its keys. -/
def Route.amounts (sizing : RunSizing) (node : SourceNode) : Route → TokenAmounts
  | .evm | .sol | .stellar => TokenAmounts.standard.rescale node.decimals
  | .solWithData => TokenAmounts.withData.rescale node.decimals
  | .xrpl => ⟨xrplAmountPerTx, xrplAmountPerKey sizing⟩
  | .sui => ⟨1, sizing.transactionsPerKey⟩

/-- The native coin that a route gives to a key beyond the minimum. -/
def Route.extra (sizing : RunSizing) (gasValue : Nat) (node : SourceNode) : Route → Nat
  | .evm | .sol => hubGasExtraPerKey sizing gasValue
  | .solWithData => computeGasExtraPerKey sizing gasValue
  | .stellar => gasExtraPerKey 128 sizing gasValue
  | .xrpl => xrplGasExtraPerKey sizing gasValue (node.gasPrice.getD 1000000000)
  | .sui => suiGasExtraPerKey gasValue

section Routes

variable {wallets : Wallets} {sourceAxelarId : String} {sizing : RunSizing}
variable {gasValue : Nat} {node : SourceNode} {here here' : Unit} {before after : Ledger}
variable {derived : List Address}

/-- The derived keys are different accounts, as many as asked for, without the main one. -/
structure Pooled (wallets : Wallets) (sizing : RunSizing) (derived : List Address) : Prop where
  count : derived.length = sizing.numKeys
  nodup : derived.Nodup
  other : ∀ account ∈ derived, account ≠ wallets.main

theorem map_eq_of_mapM {Item Value : Type} {body : Item → Option Value} {items : List Item}
    {values : List Value} (collected : items.mapM body = some values) :
    items.map body = values.map some := by
  induction items generalizing values with
  | nil =>
    cases collected
    rfl
  | cons item rest ih =>
    simp only [List.mapM_cons, Option.bind_eq_bind, Option.bind_eq_some_iff] at collected
    rcases collected with ⟨value, found, others, following, ⟨rfl⟩⟩
    rw [List.map_cons, List.map_cons, found, ih following]

theorem pooled_of_mapM (derives : (List.range sizing.numKeys).mapM wallets.derive = some derived) :
    Pooled wallets sizing derived := by
  have mapped := map_eq_of_mapM derives
  have origin : ∀ account ∈ derived, ∃ index, wallets.derive index = some account := by
    intro account member
    have listed : some account ∈ (List.range sizing.numKeys).map wallets.derive := by
      rw [mapped]
      exact List.mem_map_of_mem member
    rcases List.mem_map.mp listed with ⟨index, _, found⟩
    exact ⟨index, found⟩
  refine ⟨?_, ?_, ?_⟩
  · have lengths := congrArg List.length mapped
    simpa using lengths.symm
  · apply List.Nodup.of_map some
    rw [← mapped]
    apply List.Nodup.map_on _ List.nodup_range
    intro first firstMember second _ same
    have listed : wallets.derive first ∈ derived.map some := by
      rw [← mapped]
      exact List.mem_map_of_mem firstMember
    rcases List.mem_map.mp listed with ⟨address, _, found⟩
    exact wallets.derive_injective found.symm (same ▸ found.symm)
  · rintro account member rfl
    rcases origin _ member with ⟨index, found⟩
    exact wallets.derive_ne_main index found

theorem dedup_replicate_le {count : Nat} {account : Address} :
    (List.replicate count account).dedup.length ≤ 1 := by
  cases count with
  | zero => simp
  | succ count => simp [List.replicate_dedup]

theorem pooled_of_deriveEvmSigners
    (derives : wallets.deriveEvmSigners sizing.numKeys = some derived)
    (several : 1 < derived.dedup.length) :
    Pooled wallets sizing derived := by
  by_cases single : sizing.numKeys ≤ 1
  · simp only [Wallets.deriveEvmSigners, single, if_true, Option.some.injEq] at derives
    rw [← derives] at several
    exact absurd several (not_lt.mpr dedup_replicate_le)
  · simp only [Wallets.deriveEvmSigners, single, if_false] at derives
    exact pooled_of_mapM derives

theorem derives_of_several {route : Route}
    (derives : derivedKeys wallets sourceAxelarId sizing route = some derived)
    (several : 1 < derived.dedup.length) :
    wallets.deriveEvmSigners sizing.numKeys = some derived ∧
      ((route = .evm ∨ route = .sol) → sourceAxelarId ≠ "hedera") := by
  by_cases own : (route = .evm ∨ route = .sol) ∧ sourceAxelarId = "hedera"
  · have same : derived = List.replicate sizing.numKeys wallets.main := by
      rcases own with ⟨rfl | rfl, hedera⟩
      · simpa [derivedKeys, hedera] using derives.symm
      · simpa [derivedKeys, hedera] using derives.symm
    rw [same] at several
    exact absurd several (not_lt.mpr dedup_replicate_le)
  · refine ⟨?_, fun shared hedera => own ⟨shared, hedera⟩⟩
    cases route with
    | evm =>
      have foreign : sourceAxelarId ≠ "hedera" := fun hedera => own ⟨.inl rfl, hedera⟩
      simpa [derivedKeys, foreign] using derives
    | sol =>
      have foreign : sourceAxelarId ≠ "hedera" := fun hedera => own ⟨.inr rfl, hedera⟩
      simpa [derivedKeys, foreign] using derives
    | _ => exact derives

/-- Every account but the main one holds what it needs, in coins and in tokens. -/
def Holding (main : Address) (needed amount : Nat) (derived : List Address) (ledger : Ledger) :
    Prop :=
  ∀ account ∈ derived, account ≠ main →
    needed ≤ ledger.funds account ∧ amount ≤ ledger.token account

variable {main : Address}

theorem Holding.grows {needed amount : Nat} (holding : Holding main needed amount derived before)
    (grown : before.Grows main after) :
    Holding main needed amount derived after := by
  intro account member other
  exact ⟨(holding account member other).1.trans (grown account other).1,
    (holding account member other).2.trans (grown account other).2⟩

variable {extra : Nat}

theorem holding_of_phases {amount : Nat} {first second third : Unit} {funded given : Ledger}
    {paid spread : Unit} (fits : targetWeiPerKey + extra < 2 ^ 128)
    (funding :
      Executes (fundingMachine main node) (ensureFundedEvmWithExtra main derived extra) first
        before (.ok paid) second funded)
    (giving :
      Executes (fundingMachine main node) (distributeTokens main derived amount) second funded
        (.ok spread) third given) :
    Holding main (minWeiPerKey + extra) amount derived given := by
  intro account member other
  exact ⟨(ensureFundedEvmWithExtra_ok fits funding member other).trans
      (executes_grows giving account other).1,
    distributeTokens_ok giving member other⟩

variable {amounts : TokenAmounts}

theorem rescaleSizingForDecimals_ok {rescaled : TokenAmounts}
    (executes : Executes (fundingMachine main node) (rescaleSizingForDecimals amounts) here before
        (.ok rescaled) here' after) :
    rescaled = amounts.rescale node.decimals := by
  simp only [rescaleSizingForDecimals, Program.bind_eq] at executes
  rcases executes.bind_ok with ⟨decimals, _, _, reading, ending⟩
  rcases need_ok reading with ⟨_, _, _, answered, found, _⟩
  have read : decimals = node.decimals := answered decimals found
  cases ending
  rw [read]

theorem deriveAndFundSigners_ok {keys : List Address}
    (derives : wallets.deriveEvmSigners sizing.numKeys = some derived)
    (executes :
      Executes (fundingMachine wallets.main node) (deriveAndFundSigners wallets sizing extra)
        here before (.ok keys) here' after) :
    keys = derived ∧ ∃ first paid, Executes (fundingMachine wallets.main node)
          (ensureFundedEvmWithExtra wallets.main derived extra) first before (.ok paid) here'
          after := by
  simp only [deriveAndFundSigners, Program.bind_eq] at executes
  rcases executes.bind_ok with ⟨found, middle, between, finding, funding⟩
  rcases finding.orFail_ok with ⟨same, rfl, rfl⟩
  cases derives.symm.trans same
  rcases funding.bind_ok with ⟨paid, _, _, funding, ending⟩
  cases ending
  exact ⟨rfl, _, paid, funding⟩

theorem gasPrice_ok {price : Option Nat}
    (executes : Executes (fundingMachine main node)
        (@Program.perform fundingInterface FundingError .gasPrice) here before (.ok price)
        here' after) :
    price = node.gasPrice := by
  cases executes with
  | call reply evolved allowed rest =>
    cases rest
    exact allowed

theorem scaled_ok {Value : Type} {value : Value}
    {later : List Address → TokenAmounts → Preparing Value}
    (fits : targetWeiPerKey + extra < 2 ^ 128)
    (derives : wallets.deriveEvmSigners sizing.numKeys = some derived)
    (executes : Executes (fundingMachine wallets.main node)
        ((rescaleSizingForDecimals amounts).bind fun amounts =>
          (deriveAndFundSigners wallets sizing extra).bind fun keys =>
            (distributeTokens wallets.main keys amounts.perKey).bind fun _ =>
              later keys amounts)
        here before (.ok value) here' after) :
    ∃ middle between,
      Holding wallets.main (minWeiPerKey + extra) (amounts.rescale node.decimals).perKey
          derived between ∧
        Executes (fundingMachine wallets.main node)
          (later derived (amounts.rescale node.decimals)) middle between (.ok value) here'
          after := by
  rcases executes.bind_ok with ⟨rescaled, _, _, scaling, continues⟩
  cases rescaleSizingForDecimals_ok scaling
  rcases continues.bind_ok with ⟨keys, _, _, finding, continues⟩
  rcases deriveAndFundSigners_ok derives finding with ⟨rfl, _, _, funding⟩
  rcases continues.bind_ok with ⟨_, _, _, giving, continues⟩
  exact ⟨_, _, holding_of_phases fits funding giving, continues⟩

theorem prepare_ok {route : Route} {prepared : Prepared}
    (fits : targetWeiPerKey + route.extra sizing gasValue node < 2 ^ 128)
    (derives : wallets.deriveEvmSigners sizing.numKeys = some derived)
    (foreign : (route = .evm ∨ route = .sol) → sourceAxelarId ≠ "hedera")
    (executes : Executes (fundingMachine wallets.main node)
        (prepare wallets sourceAxelarId sizing gasValue route) here before (.ok prepared)
        here' after) :
    prepared = ⟨derived, (route.amounts sizing node).perTx⟩ ∧
      Holding wallets.main (minWeiPerKey + route.extra sizing gasValue node)
        (route.amounts sizing node).perKey derived after := by
  cases route with
  | evm =>
    simp only [Route.amounts, Route.extra] at fits ⊢
    have named := foreign (.inl rfl)
    simp only [prepare, prepareEvm, deriveAndFundKeys, named, if_false, Program.bind_eq] at executes
    rcases scaled_ok fits derives executes with ⟨_, _, holding, ending⟩
    cases ending
    exact ⟨rfl, holding⟩
  | sol =>
    simp only [Route.amounts, Route.extra] at fits ⊢
    have named := foreign (.inr rfl)
    simp only [prepare, prepareSol, prepareEvm, deriveAndFundKeys, named, if_false,
      Program.bind_eq] at executes
    rcases scaled_ok fits derives executes with ⟨_, _, holding, ending⟩
    cases ending
    exact ⟨rfl, holding⟩
  | solWithData =>
    simp only [Route.amounts, Route.extra] at fits ⊢
    simp only [prepare, prepareSolWithData, Program.bind_eq] at executes
    rcases scaled_ok fits derives executes with ⟨_, _, holding, continues⟩
    rcases Executes.bind_ok continues with ⟨_, _, _, approving, ending⟩
    cases ending
    exact ⟨rfl, holding.grows (executes_grows approving)⟩
  | stellar =>
    simp only [Route.amounts, Route.extra] at fits ⊢
    simp only [prepare, prepareStellar, Program.bind_eq] at executes
    rcases scaled_ok fits derives executes with ⟨_, _, holding, ending⟩
    cases ending
    exact ⟨rfl, holding⟩
  | xrpl =>
    simp only [Route.amounts, Route.extra] at fits ⊢
    simp only [prepare, prepareXrpl, Program.bind_eq] at executes
    rcases executes.bind_ok with ⟨keys, _, _, finding, continues⟩
    rcases finding.orFail_ok with ⟨same, rfl, rfl⟩
    cases derives.symm.trans same
    rcases continues.bind_ok with ⟨price, _, _, pricing, continues⟩
    cases gasPrice_ok pricing
    rcases continues.bind_ok with ⟨_, _, _, funding, continues⟩
    rcases continues.bind_ok with ⟨_, _, _, giving, continues⟩
    rcases continues.bind_ok with ⟨_, _, _, approving, ending⟩
    cases ending
    exact ⟨rfl, (holding_of_phases fits funding giving).grows (executes_grows approving)⟩
  | sui =>
    simp only [Route.amounts, Route.extra] at fits ⊢
    simp only [prepare, prepareSui, Program.bind_eq] at executes
    rcases executes.bind_ok with ⟨keys, _, _, finding, continues⟩
    rcases deriveAndFundSigners_ok derives finding with ⟨rfl, _, _, funding⟩
    rcases continues.bind_ok with ⟨_, _, _, giving, ending⟩
    cases ending
    exact ⟨rfl, holding_of_phases fits funding giving⟩

end Routes

end Axe.LoadTesting

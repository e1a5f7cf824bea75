import Axe.QuoteAcceptance

namespace Axe.Intents

open Hardened (Address U256 TransactionRequest)

/-!
# The server and the chains around a command

Every answer is possible, of the server and of the nodes alike.  Besides the answers the
world has what happens on the chains: the calls that were sent are executed at any time and
take funds of the wallet, and solvers deliver funds for quotes.  What an execution of a call
may take is a property of the contract that is called.
-/

/-- A transaction that was handed to the chain behind a node. -/
structure SentCall where
  rpcUrl : String
  request : TransactionRequest
  label : String
  deriving DecidableEq

/-- What the server has offered and reported to the command. -/
structure Dealings where
  offered : List (QuoteRequest × Quote)
  reported : List (String × StatusOutput)
  deriving DecidableEq

/-- What was sent, what the executions took (by place of the call) and what was delivered. -/
structure Ledger where
  sent : List SentCall
  taken : List (Nat × Nat)
  delivered : List (String × Nat)
  deriving DecidableEq

def totalFor {Key : Type} [DecidableEq Key] (key : Key) (entries : List (Key × Nat)) : Nat :=
  ((entries.filter fun entry => entry.1 = key).map Prod.snd).sum

/-- What a call has taken from the wallet in all its executions. -/
def Ledger.spentBy (ledger : Ledger) (place : Nat) : Nat := totalFor place ledger.taken

def Ledger.deliveredFor (ledger : Ledger) (quoteId : String) : Nat :=
  totalFor quoteId ledger.delivered

abbrev Takes := SentCall → Nat → Prop

inductive Moves (takes : Takes) : Ledger → Ledger → Prop where
  | take
      {ledger : Ledger}
      {place : Nat}
      {call : SentCall}
      (amount : Nat)
      (present : ledger.sent[place]? = some call)
      (possible : takes call (ledger.spentBy place + amount)) :
      Moves takes ledger { ledger with taken := ledger.taken ++ [(place, amount)] }
  | deliver
      {ledger : Ledger}
      (quoteId : String)
      (amount : Nat) :
      Moves takes ledger { ledger with delivered := ledger.delivered ++ [(quoteId, amount)] }

def StatusResponse.report (status : StatusResponse) : List (String × StatusOutput) :=
  match status.state, status.output with
  | .done, some output => [(status.quoteId, output)]
  | _, _ => []

def QuoteAnswer.offers (request : QuoteRequest) : QuoteAnswer → List (QuoteRequest × Quote)
  | .quotes answered => answered.map fun quote => (request, quote)
  | .failed _ | .unprocessable _ => []

/-- What an answer adds to the offers, the reports and the calls sent. -/
def dealReact : (op : Call) → op.Reply → Dealings → Ledger → Dealings × Ledger
  | .quote request, answer, here, ledger =>
    ({ here with offered := here.offered ++ QuoteAnswer.offers request answer }, ledger)
  | .status _, .ok status, here, ledger =>
    ({ here with reported := here.reported ++ status.report }, ledger)
  | .sendTx rpcUrl request label, _, here, ledger =>
    (here, { ledger with sent := ledger.sent ++ [⟨rpcUrl, request, label⟩] })
  | _, _, here, ledger => (here, ledger)

/-- The client, its server and the chains. -/
def dealMachine (takes : Takes) : Machine intentInterface Dealings Ledger where
  allowed := fun _ _ _ _ => True
  react := dealReact
  evolve := Moves takes

abbrev intentService (takes : Takes) : Service intentInterface String Dealings Ledger Empty :=
  Service.once (dealMachine takes)

variable {takes : Takes}

theorem sent_of_evolves {ledger later : Ledger}
    (evolved : (dealMachine takes).Evolves ledger later) :
    later.sent = ledger.sent := by
  induction evolved with
  | refl => rfl
  | tail _ step ih =>
    cases step with
    | take amount present possible => exact ih
    | deliver quoteId amount => exact ih

/-- A call that tells the command nothing about quotes and sends nothing. -/
def Call.Silent : Call → Prop
  | .quote _ | .status _ | .sendTx _ _ _ => False
  | .now | .polls _ | .connect _ | .allowance _ _ _ _ => True

theorem reads_of_silent {op : Call} (silent : op.Silent) : (dealMachine takes).Reads op := by
  intro reply here ledger
  cases op with
  | quote _ => exact silent.elim
  | status _ => exact silent.elim
  | sendTx _ _ _ => exact silent.elim
  | _ => rfl

theorem reads_now : (dealMachine takes).Reads Call.now := reads_of_silent trivial

theorem reads_polls (timeout : Nat) : (dealMachine takes).Reads (Call.polls timeout) :=
  reads_of_silent trivial

/-- Nothing is sent and nothing that the server said is forgotten. -/
structure Quiet (here : Dealings) (ledger : Ledger) (here' : Dealings) (ledger' : Ledger) :
    Prop where
  offered : here.offered ⊆ here'.offered
  reported : here.reported ⊆ here'.reported
  sent : ledger'.sent = ledger.sent

theorem Quiet.refl (here : Dealings) (ledger : Ledger) : Quiet here ledger here ledger :=
  ⟨List.Subset.refl _, List.Subset.refl _, rfl⟩

theorem Quiet.trans {here middle here' : Dealings} {ledger between ledger' : Ledger}
    (first : Quiet here ledger middle between) (second : Quiet middle between here' ledger') :
    Quiet here ledger here' ledger' :=
  ⟨List.Subset.trans first.offered second.offered,
    List.Subset.trans first.reported second.reported, second.sent.trans first.sent⟩

end Axe.Intents

import Axe.IntentWorld
import Axe.ServiceReplay

namespace Axe.Intents.Sample

open Hardened (Address U256 Receipt)

/-!
# A server and two chains

Two chains with a native asset and a token each, a wallet and a server that can be told how
to answer.  Scripts of commands are replayed against them.
-/

def formats : IntentFormats where
  parseAddress := fun text => (parseUnsigned (2 ^ 160) text).map (BitVec.ofNat 160)
  showAddress := fun address => decimalText address.toNat
  parseU256 := fun text => (parseUnsigned (2 ^ 256) text).map (BitVec.ofNat 256)
  showSeconds := decimalText

def wallet : Address := 1

def settlement : Address := 2

def runtime : IntentRuntime where
  formats := formats
  signer := wallet
  fulfillmentTimeout := 60

def chains : List (String × ChainRuntime) :=
  [("eip155:1", ⟨"one", "rpc-1"⟩), ("eip155:2", ⟨"two", "rpc-2"⟩)]

def token (chainId : String) (balance : U256) : WalletAsset where
  id := ⟨chainId, "3"⟩
  chainLabel := chainId
  symbol := "TOK"
  decimals := 6
  balance := balance
  native := false

def coin (chainId : String) (balance : U256) : WalletAsset where
  id := ⟨chainId, "0"⟩
  chainLabel := chainId
  symbol := "ETH"
  decimals := 18
  balance := balance
  native := true

def action (kind : ActionKind) (chain target data value : String) : Action where
  id := "a"
  kind := kind
  chain := chain
  payload := .evmTransaction ⟨none, target, data, value⟩

def depositData : String := "0x01"

def quoteFor (request : QuoteRequest) : Quote where
  quoteId := request.fromChain
  backend := .intent
  quoteExpiresAt := 100000000000
  fulfillmentDeadline := none
  input := ⟨request.fromChain, request.fromToken, request.amount⟩
  output := ⟨request.toChain, request.toToken, request.amount, none⟩
  actions :=
    [action .transaction request.fromChain "2" depositData
      (if request.fromToken = "0" then request.amount else "0")]

def doneWith (quoteId : String) (asset : WalletAsset) (amount : String) : StatusResponse where
  quoteId := quoteId
  state := .done
  output := some ⟨asset.id.chainId, asset.id.tokenAddress, amount⟩
  refund := none

structure Server where
  quote : QuoteRequest → QuoteAnswer
  status : String → Except String StatusResponse

def receipt : Receipt where
  transactionHash := [1]
  blockNumber := some 1
  blockHash := none
  status := true
  contractAddress := none

def Server.reply (server : Server) : (op : Call) → op.Reply
  | .quote request => server.quote request
  | .status quoteId => server.status quoteId
  | .now => (0 : Int)
  | .polls _ => (0 : Nat)
  | .connect _ => Except.ok ()
  | .allowance _ _ _ _ => Except.ok 0
  | .sendTx _ _ _ => Except.ok receipt

inductive ChainMove where
  | take (place amount : Nat)
  | deliver (quoteId : String) (amount : Nat)

def ChainMove.apply (takes : SentCall → Nat → Bool) : ChainMove → Ledger → Option Ledger
  | take place amount, ledger =>
    match ledger.sent[place]? with
    | none => none
    | some call =>
      if takes call (ledger.spentBy place + amount) then
        some { ledger with taken := ledger.taken ++ [(place, amount)] }
      else
        none
  | deliver quoteId amount, ledger =>
    some { ledger with delivered := ledger.delivered ++ [(quoteId, amount)] }

theorem apply_moves {takes : SentCall → Nat → Bool} {step : ChainMove} {ledger later : Ledger}
    (applied : step.apply takes ledger = some later) :
    Moves (fun call amount => takes call amount = true) ledger later := by
  cases step with
  | take place amount =>
    simp only [ChainMove.apply] at applied
    split at applied
    · cases applied
    · rename_i call present
      split at applied
      · rename_i possible
        cases applied
        exact .take amount present possible
      · cases applied
  | deliver quoteId amount =>
    cases applied
    exact .deliver quoteId amount

/-- Replay scripts of commands against servers. -/
def responder (takes : SentCall → Nat → Bool) :
    @Responder intentInterface String Dealings Ledger Empty
      (intentService fun call amount => takes call amount = true)
      ChainMove Server where
  move := fun step ledger => step.apply takes ledger
  move_sound := fun applied => apply_moves applied
  reply := fun server _ _ op => some (server.reply op)
  reply_sound := fun _ => trivial

end Axe.Intents.Sample

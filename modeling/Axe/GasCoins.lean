import Axe.DecimalText
import Axe.LargestFirst
import Axe.PrefixCodec

namespace Axe.Sui

open LargestFirst

/-!
# The gas coins of a Sui wallet

The node lists the coins of a wallet page by page.  The client reads a bounded number of
pages and pays with the largest coins, of which it takes a bounded number too.
-/

/-- An object as the node reports it. -/
structure Object where
  objectId : String
  version : Nat
  digest : String
  balance : Nat

/-- What identifies a version of an object. -/
structure ObjectReference where
  objectId : Bytes
  version : Nat
  digest : Bytes
  deriving DecidableEq

/-- A page of objects, and where the next one starts. -/
structure Page where
  objects : List Object
  nextPageToken : Option Bytes

/-- The node, for one owner and coin type, and the parsers of the client library. -/
structure Client where
  listOwnedObjects : Option Bytes → Except String Page
  fromHex : String → Except String Bytes
  parseDigest : String → Except String Bytes

/-- A coin object and its balance. -/
abbrev Coin := ObjectReference × Nat

/-- Why no coins were picked. -/
inductive GasError where
  | request (message : String)
  | noCoins
  | tooLittle (held needed : Nat)

/-- The error as it is shown. -/
def GasError.text (owner : Bytes) : GasError → String
  | request message => message
  | noCoins => "wallet 0x" ++ hexEncode owner ++ " has no SUI coins — fund it first"
  | tooLittle held needed =>
    "wallet 0x" ++ hexEncode owner ++ " holds " ++ decimalText held ++
      " mist of SUI in total — less than the " ++ decimalText needed ++
        " mist needed for gas budget + cross-chain gas"

namespace Client

variable (client : Client)

/-- The reference of an object, if all its parts are there. -/
def objectRefFromProto (object : Object) : Except String ObjectReference := do
  let id ← (client.fromHex object.objectId).mapError fun error =>
    "objectId hex '" ++ object.objectId ++ "': " ++ error
  let digest ← (client.parseDigest object.digest).mapError fun error =>
    "object digest '" ++ object.digest ++ "': " ++ error
  return ⟨id, object.version, digest⟩

/-- The coins of one page, and the token of the next page if there is one. -/
def coinPage (token : Option Bytes) : Except String (List Coin × Option Bytes) := do
  let page ← client.listOwnedObjects token
  let coins ← page.objects.mapM fun object => do
    return (← client.objectRefFromProto object, object.balance)
  return (coins, page.nextPageToken.filter fun next => !next.isEmpty)

/-- Read pages of coins, up to a number of them. -/
def collectPages : Nat → Option Bytes → Except String (List Coin)
  | 0, _ => return []
  | pages + 1, token => do
    match ← client.coinPage token with
    | (coins, some next) => return coins ++ (← collectPages pages (some next))
    | (coins, none) => return coins

/-- The pages that are read at most. -/
def maxPages : Nat := 20

/-- The coins of an owner, as far as they are read. -/
def allCoinsOfType : Except String (List Coin) := do
  return largestFirst Prod.snd (← client.collectPages maxPages none)

/-- The coins that one transaction may use. -/
def maxGasObjects : Nat := 200

/-- Take coins until they are worth enough or are as many as allowed. -/
def pickLoop (minTotalMist : Nat) :
    List Coin → List ObjectReference → Nat → List ObjectReference × Nat
  | [], picked, sum => (picked, sum)
  | (object, balance) :: rest, picked, sum =>
    if (minTotalMist ≤ sum ∧ picked ≠ []) ∨ maxGasObjects ≤ picked.length then
      (picked, sum)
    else
      pickLoop minTotalMist rest (picked ++ [object]) (sum + balance)

/-- The first coins that are worth enough together, or why there are none. -/
def pickGasCoins (minTotalMist : Nat) : Except GasError (List ObjectReference) := do
  let coins ← client.allCoinsOfType.mapError .request
  if coins = [] then
    throw .noCoins
  let (picked, sum) := pickLoop minTotalMist coins [] 0
  if sum < minTotalMist then
    throw (.tooLittle (total Prod.snd coins) minTotalMist)
  return picked

/-- The node lists these pages, beginning with the one of the token. -/
inductive Lists : Option Bytes → List (List Coin) → Prop where
  | last {token : Option Bytes} {coins : List Coin} :
      client.coinPage token = .ok (coins, none) → Lists token [coins]
  | more {token : Option Bytes} {coins : List Coin} {next : Bytes} {rest : List (List Coin)} :
      client.coinPage token = .ok (coins, some next) → Lists (some next) rest →
        Lists token (coins :: rest)

end Client

/-!
## What a choice of coins is for
-/

section Choices

variable {wallet seen : List Coin} {needed : Nat}

/-- A payment: some coins of the wallet, no more than a transaction takes. -/
def Pays (wallet : List Coin) (needed : Nat) (coins : List Coin) : Prop :=
  coins.Subperm wallet ∧ coins ≠ [] ∧ coins.length ≤ Client.maxGasObjects ∧
    needed ≤ total Prod.snd coins

/-- The outcome is right for a wallet with these coins. -/
structure PicksWell (wallet : List Coin) (needed : Nat)
    (outcome : Except GasError (List ObjectReference)) : Prop where
  complete : (∃ picked, outcome = .ok picked) ↔ wallet ≠ [] ∧
        ∃ coins, coins.Subperm wallet ∧ coins.length ≤ Client.maxGasObjects ∧
          needed ≤ total Prod.snd coins
  fewest : ∀ picked, outcome = .ok picked → picked.Nodup ∧
        ∃ coins, coins.map Prod.fst = picked ∧ Pays wallet needed coins ∧
          ∀ others, others.Subperm wallet → others ≠ [] → needed ≤ total Prod.snd others →
            coins.length ≤ others.length
  truthful : ∀ held, outcome = .error (.tooLittle held needed) → total Prod.snd wallet < needed

/-- The coins seen pay as well as the whole wallet, and a wallet of which no payment is
possible holds too little. -/
def SeenSuffices (wallet seen : List Coin) (needed : Nat) : Prop :=
  (∀ coins, Pays wallet needed coins →
      ∃ others, Pays seen needed others ∧ others.length ≤ coins.length) ∧
    ((∀ coins, ¬ Pays wallet needed coins) → seen ≠ [] → total Prod.snd wallet < needed)

/-- The shortest first part of the coins that pays, or else as many as a transaction takes. -/
structure TakesFirst (needed : Nat) (coins chosen : List Coin) : Prop where
  first : chosen <+: coins
  few : chosen.length ≤ Client.maxGasObjects
  present : coins ≠ [] → chosen ≠ []
  short : ∀ count, 0 < count → count < chosen.length → total Prod.snd (coins.take count) < needed
  full : total Prod.snd chosen < needed → chosen.length = min Client.maxGasObjects coins.length

theorem pickLoop_takes {rest taken : List Coin} (few : taken.length ≤ Client.maxGasObjects)
    (short : ∀ count, 0 < count → count < taken.length →
        total Prod.snd ((taken ++ rest).take count) < needed) :
    ∃ chosen, Client.pickLoop needed rest (taken.map Prod.fst) (total Prod.snd taken) =
          (chosen.map Prod.fst, total Prod.snd chosen) ∧
        TakesFirst needed (taken ++ rest) chosen := by
  induction rest generalizing taken with
  | nil =>
    refine ⟨taken, rfl, List.prefix_append _ _, few, by simp, short, fun _ => ?_⟩
    rw [List.append_nil, Nat.min_eq_right few]
  | cons coin rest ih =>
    simp only [Client.pickLoop, ne_eq, List.map_eq_nil_iff, List.length_map]
    split
    · rename_i stops
      refine ⟨taken, rfl, List.prefix_append _ _, few, fun _ => ?_, short, fun lacking => ?_⟩
      · rcases stops with paid | full
        · exact paid.2
        · rintro rfl
          cases full
      · rcases stops with paid | full
        · exact absurd paid.1 (not_le.mpr lacking)
        · rw [List.length_append]
          omega
    · rename_i continues
      rw [not_or, not_and, not_not, not_le] at continues
      have assoc : taken ++ coin :: rest = (taken ++ [coin]) ++ rest := by simp
      rw [assoc] at short ⊢
      have next := @ih (taken ++ [coin]) (by simpa [Nat.succ_le_iff] using continues.2) ?_
      · simpa [total_append, total] using next
      · intro count positive below
        by_cases old : count < taken.length
        · exact short count positive old
        · have all : count = taken.length := by simp at below; omega
          rw [all, List.append_assoc, List.take_left]
          apply not_le.mp
          intro paid
          have empty := continues.1 paid
          rw [all, empty] at positive
          cases positive

variable {coins chosen others : List Coin}

theorem TakesFirst.fewest (sorted : coins.Pairwise (Heavier Prod.snd))
    (takes : TakesFirst needed coins chosen) (among : others.Subperm coins) (some : others ≠ [])
    (pays : needed ≤ total Prod.snd others) :
    chosen.length ≤ others.length := by
  by_contra longer
  have short := takes.short others.length (List.length_pos_of_ne_nil some) (not_le.mp longer)
  exact absurd (pays.trans (total_le_take sorted among)) (not_le.mpr short)

theorem TakesFirst.lacks (sorted : coins.Pairwise (Heavier Prod.snd))
    (takes : TakesFirst needed coins chosen) (lacking : total Prod.snd chosen < needed) :
    ¬ Pays coins needed others := by
  rintro ⟨among, _, few, pays⟩
  have fits : others.length ≤ chosen.length := by
    rw [takes.full lacking]
    exact Nat.le_min.mpr ⟨few, among.length_le⟩
  have bound := (total_le_take sorted among).trans (total_take_mono fits)
  rw [← List.prefix_iff_eq_take.mp takes.first] at bound
  exact absurd (pays.trans bound) (not_le.mpr lacking)

end Choices

section Picking

variable {client : Client} {pages : List (List Coin)} {token : Option Bytes} {needed : Nat}

theorem collectPages_of_lists (lists : client.Lists token pages) (count : Nat) :
    client.collectPages count token = .ok (pages.take count).flatten := by
  induction count generalizing token pages with
  | zero => rfl
  | succ count ih =>
    cases lists with
    | last read =>
      rw [Client.collectPages, read]
      simp
      rfl
    | more read rest =>
      rw [Client.collectPages, read, List.take_succ_cons, List.flatten_cons]
      have older := ih rest
      change (do return _ ++ (← client.collectPages count (some _))) = _
      rw [older]
      rfl

/-- The coins of the pages that are read. -/
def seenCoins (pages : List (List Coin)) : List Coin := (pages.take Client.maxPages).flatten

theorem seenCoins_subperm : (seenCoins pages).Subperm pages.flatten := by
  have split : pages.flatten = seenCoins pages ++ (pages.drop Client.maxPages).flatten := by
    rw [seenCoins, ← List.flatten_append, List.take_append_drop]
  rw [split]
  exact (List.sublist_append_left _ _).subperm

variable {wallet seen coins : List Coin} {outcome : Except GasError (List ObjectReference)}

theorem Pays.nonempty (pays : Pays wallet needed coins) : wallet ≠ [] := by
  rintro rfl
  exact pays.2.1 (List.subperm_nil.mp pays.1)

theorem Pays.of_enough (nonempty : wallet ≠ []) (among : coins.Subperm wallet)
    (few : coins.length ≤ Client.maxGasObjects) (enough : needed ≤ total Prod.snd coins) :
    ∃ coins, Pays wallet needed coins := by
  by_cases none : coins = []
  · rcases List.exists_cons_of_ne_nil nonempty with ⟨coin, rest, rfl⟩
    rw [none] at enough
    refine ⟨[coin], List.singleton_subperm_iff.mpr List.mem_cons_self, by simp, ?_, ?_⟩
    · exact Nat.le_add_left 1 199
    · exact enough.trans (Nat.zero_le _)
  · exact ⟨coins, among, none, few, enough⟩

theorem nodup_of_subperm (distinct : (wallet.map Prod.fst).Nodup) (among : coins.Subperm wallet) :
    (coins.map Prod.fst).Nodup := by
  rcases among with ⟨part, same, sublist⟩
  exact (same.map _).nodup_iff.mp (distinct.sublist (sublist.map _))

/-- The outcome is that of a loop over the coins seen, the largest first. -/
inductive Picked (seen : List Coin) (needed : Nat) :
    Except GasError (List ObjectReference) → Prop where
  | nothing : seen = [] → Picked seen needed (.error .noCoins)
  | paid {coins : List Coin} : Pays seen needed coins →
      (∀ others, others.Subperm seen → others ≠ [] → needed ≤ total Prod.snd others →
        coins.length ≤ others.length) →
      Picked seen needed (.ok (coins.map Prod.fst))
  | lacking : seen ≠ [] → (∀ coins, ¬ Pays seen needed coins) →
      Picked seen needed (.error (.tooLittle (total Prod.snd seen) needed))

theorem pickGasCoins_picked (lists : client.Lists none pages) :
    Picked (seenCoins pages) needed (client.pickGasCoins needed) := by
  have sorted := @largestFirst_sorted _ Prod.snd (seenCoins pages)
  have same := @largestFirst_perm _ Prod.snd (seenCoins pages)
  have all : client.allCoinsOfType = .ok (largestFirst Prod.snd (seenCoins pages)) := by
    rw [Client.allCoinsOfType, collectPages_of_lists lists]
    rfl
  rw [Client.pickGasCoins, all]
  rcases @pickLoop_takes needed (largestFirst Prod.snd (seenCoins pages)) [] (Nat.zero_le _)
      (by simp) with ⟨chosen, picks, takes⟩
  generalize largestFirst Prod.snd (seenCoins pages) = coins at *
  simp only [List.nil_append] at takes
  change Picked _ _ (if coins = [] then _ else _)
  by_cases empty : coins = []
  · rw [if_pos empty]
    rw [empty] at same
    exact .nothing same.nil_eq.symm
  · rw [if_neg empty]
    change Picked _ _
      (if (Client.pickLoop needed coins [] 0).2 < needed then
        .error (.tooLittle (total Prod.snd coins) needed)
      else
        .ok (Client.pickLoop needed coins [] 0).1)
    rw [show Client.pickLoop needed coins [] 0 = _ from picks, total_perm same]
    by_cases lacking : total Prod.snd chosen < needed
    · rw [if_pos lacking]
      refine .lacking (fun none => empty (by rw [none] at same; exact same.eq_nil)) ?_
      rintro others ⟨among, pays⟩
      exact takes.lacks sorted lacking ⟨among.trans same.symm.subperm, pays⟩
    · rw [if_neg lacking]
      have among := takes.first.sublist.subperm.trans same.subperm
      refine .paid ⟨among, takes.present empty, takes.few, not_lt.mp lacking⟩ ?_
      intro others othersAmong
      exact takes.fewest sorted (othersAmong.trans same.symm.subperm)

theorem PicksWell.seenSuffices (among : seen.Subperm wallet) (picked : Picked seen needed outcome)
    (well : PicksWell wallet needed outcome) :
    SeenSuffices wallet seen needed := by
  constructor
  · intro coins pays
    have succeeds := well.complete.mpr ⟨pays.nonempty, coins, pays.1, pays.2.2⟩
    rcases succeeds with ⟨references, rfl⟩
    have fewest := (well.fewest references rfl).2
    cases picked with
    | @paid chosen chosenPays _ =>
      rcases fewest with ⟨found, same, _, least⟩
      have lengths := congrArg List.length same
      simp only [List.length_map] at lengths
      exact ⟨chosen, chosenPays, lengths ▸ least coins pays.1 pays.2.1 pays.2.2.2⟩
  · intro unpaid some
    cases picked with
    | nothing none => exact absurd none some
    | paid pays _ => exact absurd ⟨pays.1.trans among, pays.2⟩ (unpaid _)
    | lacking _ _ => exact well.truthful _ rfl

theorem SeenSuffices.picksWell (among : seen.Subperm wallet)
    (distinct : (wallet.map Prod.fst).Nodup) (picked : Picked seen needed outcome)
    (suffice : SeenSuffices wallet seen needed) :
    PicksWell wallet needed outcome := by
  rcases suffice with ⟨covers, holds⟩
  constructor
  · constructor
    · rintro ⟨references, rfl⟩
      cases picked with
      | @paid chosen pays _ =>
        have larger : Pays wallet needed chosen := ⟨pays.1.trans among, pays.2⟩
        exact ⟨larger.nonempty, chosen, larger.1, larger.2.2⟩
    · rintro ⟨nonempty, coins, within, few, enough⟩
      rcases Pays.of_enough nonempty within few enough with ⟨payment, pays⟩
      rcases covers payment pays with ⟨others, othersPay, _⟩
      cases picked with
      | nothing none => exact absurd none othersPay.nonempty
      | paid _ _ => exact ⟨_, rfl⟩
      | lacking _ unpaid => exact absurd othersPay (unpaid others)
  · rintro references rfl
    cases picked with
    | @paid chosen pays least =>
      have within := pays.1.trans among
      refine ⟨nodup_of_subperm distinct within, chosen, rfl, ⟨within, pays.2⟩, ?_⟩
      intro others othersWithin some enough
      by_cases few : others.length ≤ Client.maxGasObjects
      · rcases covers others ⟨othersWithin, some, few, enough⟩ with ⟨smaller, smallerPays, shorter⟩
        exact (least smaller smallerPays.1 smallerPays.2.1 smallerPays.2.2.2).trans shorter
      · exact pays.2.2.1.trans (not_le.mp few).le
  · rintro held rfl
    cases picked with
    | lacking some unpaid =>
      apply holds _ some
      intro coins pays
      rcases covers coins pays with ⟨others, othersPay, _⟩
      exact unpaid others othersPay

/-- The picked coins are right for the wallet exactly if the coins of the pages read, and
the number of coins a transaction takes, suffice for what the wallet holds. -/
theorem pickGasCoins_picksWell_iff
    (lists : client.Lists none pages)
    (distinct : (pages.flatten.map Prod.fst).Nodup) :
    PicksWell pages.flatten needed (client.pickGasCoins needed) ↔
      SeenSuffices pages.flatten (seenCoins pages) needed := by
  have picked := @pickGasCoins_picked client pages needed lists
  exact ⟨fun well => well.seenSuffices seenCoins_subperm picked,
    fun suffice => suffice.picksWell seenCoins_subperm distinct picked⟩

end Picking

/-!
## A wallet with dust
-/

def dustCoin (number : Nat) : Coin :=
  (⟨[UInt8.ofNat number], 1, []⟩, if number = 20 then 100 else 1)

/-- A wallet of twenty dust coins and then a large one, one coin on a page. -/
def dustClient : Client where
  listOwnedObjects := fun token =>
    let number := (token.bind List.head?).elim 0 UInt8.toNat
    .ok ⟨[⟨String.ofList [Char.ofNat number], 1, "", (dustCoin number).2⟩],
      if number = 20 then none else some [UInt8.ofNat (number + 1)]⟩
  fromHex := fun text => .ok (text.toList.map fun digit => UInt8.ofNat digit.toNat)
  parseDigest := fun _ => .ok []

def dustPages : List (List Coin) := (List.range 21).map fun number => [dustCoin number]

theorem dustClient_lists : dustClient.Lists none dustPages := by
  iterate 20 refine .more rfl ?_
  exact .last rfl

theorem dustPages_distinct : (dustPages.flatten.map Prod.fst).Nodup := by decide

/-- A wallet with more dust than the pages that are read. -/
theorem pickGasCoins_dust_iff : PicksWell dustPages.flatten 15 (dustClient.pickGasCoins 15) ↔
      SeenSuffices dustPages.flatten (seenCoins dustPages) 15 :=
  pickGasCoins_picksWell_iff dustClient_lists dustPages_distinct

/-- One coin of the last page would pay, and the error denies it. -/
theorem pickGasCoins_dust_denied :
    dustClient.Lists none dustPages ∧ (dustPages.flatten.map Prod.fst).Nodup ∧
      dustClient.pickGasCoins 100 = .error (.tooLittle 20 100) ∧
        ¬ PicksWell dustPages.flatten 100 (dustClient.pickGasCoins 100) := by
  have fails : dustClient.pickGasCoins 100 = .error (.tooLittle 20 100) := rfl
  refine ⟨dustClient_lists, dustPages_distinct, fails, ?_⟩
  intro well
  have less := well.truthful 20 fails
  revert less
  decide

end Axe.Sui

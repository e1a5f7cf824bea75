import Mathlib.Data.Prod.Lex
import Mathlib.Data.String.Basic
import Axe.GovernanceRelay

namespace Axe.Propose

open Hardened

/-!
# Proposal plans and their marks on disk

One governance proposal carries one call of an ASG for every edge chain of its plan.  Before it is
broadcast, a plan leaves marks: a marker for the proposal as a whole, named by the hub and by the
calls in whatever order, and a claim for every single call.
-/

/-- A call on an edge chain. -/
structure EdgeCall where
  cfg : ResolvedConfig
  target : Address
  calldata : Bytes
  deriving DecidableEq

/-- The calls of one proposal. -/
structure ProposalPlan where
  ptype : ProposalType
  calls : List EdgeCall
  nonempty : calls ≠ []

def ProposalPlan.hub (plan : ProposalPlan) : ResolvedConfig := (plan.calls.head plan.nonempty).cfg

/-- What is hashed of a call. -/
structure CallKey where
  edgeAxelarId : String
  asgAddress : String
  target : Address
  calldata : Bytes
  deriving DecidableEq

/-- What is hashed of a plan. -/
structure PlanKey where
  chainId : String
  axelarnetGateway : String
  govModule : String
  command : Nat
  calls : List CallKey
  deriving DecidableEq

structure CoverageKey where
  chainId : String
  axelarnetGateway : String
  govModule : String
  call : CallKey
  deriving DecidableEq

/-- Lower case, JSON and hashes, as libraries compute them. -/
structure PlanFormats where
  toLowercase : String → String
  planJson : PlanKey → Bytes
  callJson : CoverageKey → Bytes
  keccak256 : Bytes → Digest

def Ascii (text : String) : Prop := ∀ char ∈ text.toList, char.toNat < 128

instance decidableAscii (text : String) : Decidable (Ascii text) :=
  List.decidableBAll (fun char : Char => char.toNat < 128) text.toList

/-- What is assumed of the formats: lower case is the usual one for ASCII texts, and neither the
JSON encodings nor the hash map two inputs to one. -/
structure PlanFormats.Sound (formats : PlanFormats) : Prop where
  lower : ∀ text, Ascii text → formats.toLowercase text = asciiLower text
  planJson : Function.Injective formats.planJson
  callJson : Function.Injective formats.callJson
  keccak : Function.Injective formats.keccak256

namespace CallKey

/-- What calls are ordered by. -/
def sortKey (key : CallKey) : String ×ₗ String ×ₗ Nat ×ₗ List Nat :=
  toLex (key.edgeAxelarId, toLex (key.asgAddress,
    toLex (key.target.toNat, key.calldata.map UInt8.toNat)))

def before (first second : CallKey) : Bool := first.sortKey ≤ second.sortKey

end CallKey

section Paths

variable (formats : PlanFormats)

def EdgeCall.key (call : EdgeCall) : CallKey where
  edgeAxelarId := call.cfg.edgeAxelarId
  asgAddress := formats.toLowercase call.cfg.asgAddress
  target := call.target
  calldata := call.calldata

def ProposalPlan.key (plan : ProposalPlan) : PlanKey where
  chainId := plan.hub.chainId
  axelarnetGateway := plan.hub.axelarnetGateway
  govModule := plan.hub.govModule
  command := plan.ptype.command
  calls := (plan.calls.map (EdgeCall.key formats)).mergeSort CallKey.before

/-- The file that marks a plan as pending. -/
def markerPath (dataDir : String) (plan : ProposalPlan) : String :=
  dataDir ++ ("/proposals/" ++
    (hexEncode (formats.keccak256 (formats.planJson (plan.key formats))) ++ ".pending"))

def EdgeCall.coverageKey (call : EdgeCall) : CoverageKey where
  chainId := call.cfg.chainId
  axelarnetGateway := call.cfg.axelarnetGateway
  govModule := call.cfg.govModule
  call := call.key formats

/-- The file that claims a call. -/
def claimPath (dataDir : String) (call : EdgeCall) : String :=
  dataDir ++ ("/proposals/calls/" ++
    ("0x" ++ hexEncode (formats.keccak256 (formats.callJson (call.coverageKey formats))) ++
      ".pending"))

def claimPaths (dataDir : String) (plan : ProposalPlan) : List String :=
  plan.calls.map (claimPath formats dataDir)

end Paths

/-!
## Which plans share their marks
-/

namespace CallKey

theorem sortKey_injective : Function.Injective sortKey := by
  intro first second same
  rcases first with ⟨edge, asg, target, calldata⟩
  rcases second with ⟨otherEdge, otherAsg, otherTarget, otherCalldata⟩
  simp only [sortKey, EmbeddingLike.apply_eq_iff_eq, Prod.mk.injEq] at same
  obtain ⟨rfl, rfl, sameTarget, sameCalldata⟩ := same
  have targets : target = otherTarget := BitVec.eq_of_toNat_eq sameTarget
  have bytes : calldata = otherCalldata :=
    List.map_injective_iff.mpr (fun _ _ => UInt8.toNat.inj) sameCalldata
  rw [targets, bytes]

theorem mergeSort_eq_iff (first second : List CallKey) :
    first.mergeSort before = second.mergeSort before ↔ first.Perm second := by
  have sorted : ∀ keys : List CallKey,
      (keys.mergeSort before).Pairwise fun first second => before first second = true := by
    apply List.pairwise_mergeSort
    · intro first second third
      simp only [before, decide_eq_true_eq]
      exact le_trans
    · intro first second
      simp only [before, Bool.or_eq_true, decide_eq_true_eq]
      exact le_total _ _
  constructor
  · intro same
    exact ((List.mergeSort_perm first before).symm.trans (same ▸ .rfl)).trans
      (List.mergeSort_perm second before)
  · intro permuted
    apply List.Perm.eq_of_pairwise _ (sorted first) (sorted second)
    · exact ((List.mergeSort_perm first before).trans permuted).trans
        (List.mergeSort_perm second before).symm
    · intro key other _ _ less more
      simp only [before, decide_eq_true_eq] at less more
      exact sortKey_injective (le_antisymm less more)

end CallKey

theorem hexEncode_injective : Function.Injective hexEncode := by
  intro first second same
  have decoded := congrArg hexDecode same
  rw [hexDecode_hexEncode, hexDecode_hexEncode] at decoded
  exact Option.some.inj decoded

theorem ProposalType.command_injective : Function.Injective ProposalType.command := by
  intro first second same
  cases first <;> cases second <;> first | rfl | cases same

def ResolvedConfig.hubSide (cfg : ResolvedConfig) : String × String × String :=
  (cfg.chainId, cfg.axelarnetGateway, cfg.govModule)

def ProposalPlan.SharesHub (plan : ProposalPlan) (hub : String × String × String) : Prop :=
  ∀ call ∈ plan.calls, call.cfg.hubSide = hub

instance decidableSharesHub (plan : ProposalPlan)
    (hub : String × String × String) : Decidable (plan.SharesHub hub) :=
  inferInstanceAs (Decidable (∀ call ∈ plan.calls, _))

theorem ProposalPlan.SharesHub.hub_eq {plan : ProposalPlan} {hub : String × String × String}
    (shares : plan.SharesHub hub) :
    plan.hub.hubSide = hub :=
  shares _ (List.head_mem plan.nonempty)

section Marks

variable {formats : PlanFormats} {dataDir : String}

/-- Two plans of one hub have one marker exactly when they are of one type and have the same
calls, in whatever order. -/
theorem markerPath_eq_iff
    (sound : formats.Sound)
    {first second : ProposalPlan}
    {hub : String × String × String}
    (firstHub : first.SharesHub hub)
    (secondHub : second.SharesHub hub) :
    markerPath formats dataDir first = markerPath formats dataDir second ↔
      first.ptype = second.ptype ∧ (first.calls.map (EdgeCall.key formats)).Perm
          (second.calls.map (EdgeCall.key formats)) := by
  have sameHub : first.hub.hubSide = second.hub.hubSide := firstHub.hub_eq.trans secondHub.hub_eq.symm
  simp only [ResolvedConfig.hubSide, Prod.mk.injEq] at sameHub
  obtain ⟨sameChain, sameGateway, sameModule⟩ := sameHub
  rw [markerPath, markerPath, String.append_right_inj, String.append_right_inj,
    String.append_left_inj, hexEncode_injective.eq_iff, sound.keccak.eq_iff, sound.planJson.eq_iff,
    ProposalPlan.key, ProposalPlan.key, PlanKey.mk.injEq, CallKey.mergeSort_eq_iff,
    ProposalType.command_injective.eq_iff]
  simp only [sameChain, sameGateway, sameModule, true_and]

end Marks

/-!
Formats of which all this holds: fields one after the other, and no hashing.
-/

theorem twentyBytes_fit : 2 ^ 160 ≤ 256 ^ 20 := Nat.le_of_eq rfl

def callKeyCodec : Codec CallKey :=
  (Codec.text.pair (Codec.text.pair ((Codec.word 20 160 twentyBytes_fit).pair Codec.bytes))).map
    (fun fields => ⟨fields.1, fields.2.1, fields.2.2.1, fields.2.2.2⟩)
    (fun key => (key.edgeAxelarId, key.asgAddress, key.target, key.calldata))
    (fun _ => rfl)

def planKeyCodec : Codec PlanKey :=
  (Codec.text.pair (Codec.text.pair (Codec.text.pair
    (Codec.number.pair (Codec.list callKeyCodec))))).map
    (fun fields => ⟨fields.1, fields.2.1, fields.2.2.1, fields.2.2.2.1, fields.2.2.2.2⟩)
    (fun key => (key.chainId, key.axelarnetGateway, key.govModule, key.command, key.calls))
    (fun _ => rfl)

def coverageKeyCodec : Codec CoverageKey :=
  (Codec.text.pair (Codec.text.pair (Codec.text.pair callKeyCodec))).map
    (fun fields => ⟨fields.1, fields.2.1, fields.2.2.1, fields.2.2.2⟩)
    (fun key => (key.chainId, key.axelarnetGateway, key.govModule, key.call))
    (fun _ => rfl)

def samplePlanFormats : PlanFormats where
  toLowercase := asciiLower
  planJson := planKeyCodec.encode
  callJson := coverageKeyCodec.encode
  keccak256 := fun bytes => bytes

theorem samplePlanFormats_sound : samplePlanFormats.Sound where
  lower := fun _ _ => rfl
  planJson := planKeyCodec.encode_injective
  callJson := coverageKeyCodec.encode_injective
  keccak := fun _ _ same => same

end Axe.Propose

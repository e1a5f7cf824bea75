import Axe.ConsensusApproval
import Axe.ProgramTraces

namespace Axe.Propose

open Hardened

/-!
# The windows of an approval scan

The legacy gateway is scanned from the newest block down, one window of logs per request,
because a node rejects a wide range.  A block that is skipped would hide its approval.
-/

/-- The blocks a request asks the logs of. -/
def windowOf : Exchange relayInterface → Option (Nat × Nat)
  | ⟨.edgeLogs _ _ first last, _⟩ => some (first, last)
  | _ => none

/-- The logs a scan looks for. -/
def Matching (contract : Address) (payloadHash : Digest) (sourceTxHash : Option Digest)
    (log : ApprovalLog) : Prop :=
  log.contractAddress = contract ∧ log.payloadHash = payloadHash ∧
    ∀ hash ∈ sourceTxHash, log.sourceTxHash = hash

/-- No block of the window has such a log. -/
def Lacks (world : EdgeWorld) (wanted : ApprovalLog → Prop) (window : Nat × Nat) : Prop :=
  ∀ number, window.1 ≤ number → number ≤ window.2 → ∀ log, world.LoggedAt number log → ¬ wanted log

/-- The windows cover the blocks from `start` to before `stop` once, newest first, until
one of them has a wanted log. -/
structure Scans (world : EdgeWorld) (wanted : ApprovalLog → Prop) (start stop : Nat)
    (windows : List (Nat × Nat)) (outcome : Except String (Option ApprovedCall)) : Prop where
  inside : ∀ window ∈ windows, start ≤ window.1 ∧ window.1 ≤ window.2 ∧ window.2 < stop ∧
        window.2 + 1 - window.1 ≤ logWindowBlocks
  descending : windows.Pairwise fun newer older => older.2 < newer.1
  missing : outcome = .ok none → ∀ number, start ≤ number → number < stop →
        (∃ window ∈ windows, window.1 ≤ number ∧ number ≤ window.2) ∧
          ∀ log, world.LoggedAt number log → ¬ wanted log
  newest : ∀ approved, outcome = .ok (some approved) → ∃ passed window number log,
        windows = passed ++ [window] ∧ (∀ newer ∈ passed, Lacks world wanted newer) ∧
          window.1 ≤ number ∧ number ≤ window.2 ∧ world.LoggedAt number log ∧
            wanted log ∧ log.approved = approved

section Windows

variable {world : EdgeWorld} {wanted : ApprovalLog → Prop} {start first last stop : Nat}
variable {outcome : Except String (Option ApprovedCall)}

theorem Scans.of_nothing (unfound : ∀ approved, outcome ≠ .ok (some approved))
    (empty : outcome = .ok none → stop ≤ start) :
    Scans world wanted start stop [] outcome := by
  refine ⟨by simp, .nil, ?_, fun approved found => absurd found (unfound approved)⟩
  intro absent number above below
  have none_left := empty absent
  omega

/-- A window without a wanted log, in front of a scan of the older blocks. -/
theorem Scans.cons
    {windows : List (Nat × Nat)}
    (above : start ≤ first)
    (nonempty : first ≤ last)
    (narrow : last + 1 - first ≤ logWindowBlocks)
    (lacks : Lacks world wanted (first, last))
    (rest : Scans world wanted start first windows outcome) :
    Scans world wanted start (last + 1) ((first, last) :: windows) outcome := by
  have below : ∀ window ∈ windows, window.2 < first := fun window member =>
    (rest.inside window member).2.2.1
  refine ⟨?_, List.pairwise_cons.mpr ⟨below, rest.descending⟩, ?_, ?_⟩
  · intro window member
    rcases List.mem_cons.mp member with rfl | later
    · exact ⟨above, nonempty, Nat.lt_succ_self _, narrow⟩
    · have bounds := rest.inside window later
      exact ⟨bounds.1, bounds.2.1, by omega, bounds.2.2.2⟩
  · intro absent number late early
    by_cases newer : first ≤ number
    · exact ⟨⟨_, List.mem_cons_self, newer, Nat.le_of_lt_succ early⟩,
        lacks number newer (Nat.le_of_lt_succ early)⟩
    · rcases rest.missing absent number late (not_le.mp newer) with ⟨⟨window, member, within⟩, none⟩
      exact ⟨⟨window, List.mem_cons_of_mem _ member, within⟩, none⟩
  · intro approved found
    rcases rest.newest approved found with
      ⟨passed, window, number, log, split, passedLack, isFound⟩
    refine ⟨(first, last) :: passed, window, number, log, by rw [split]; rfl, ?_, isFound⟩
    intro newer member
    rcases List.mem_cons.mp member with rfl | later
    · exact lacks
    · exact passedLack newer later

/-- The last window: a request that failed, or the one with the wanted log. -/
theorem Scans.of_last
    (above : start ≤ first)
    (nonempty : first ≤ last)
    (narrow : last + 1 - first ≤ logWindowBlocks)
    (present : outcome ≠ .ok none)
    (found : ∀ approved, outcome = .ok (some approved) →
      ∃ number log, first ≤ number ∧ number ≤ last ∧ world.LoggedAt number log ∧
      wanted log ∧ log.approved = approved) :
    Scans world wanted start (last + 1) [(first, last)] outcome := by
  refine ⟨?_, List.pairwise_singleton _ _, fun absent => absurd absent present, ?_⟩
  · intro window member
    rw [List.mem_singleton.mp member]
    exact ⟨above, nonempty, Nat.lt_succ_self _, narrow⟩
  · intro approved isFound
    rcases found approved isFound with ⟨number, log, located⟩
    exact ⟨[], (first, last), number, log, rfl, by simp, located⟩

variable {contract gateway : Address} {payloadHash : Digest} {sourceTxHash : Option Digest}

theorem selectApproval_found {approved : ApprovedCall}
    (selected :
      selectApproval contract sourceTxHash (world.logs payloadHash first last) = some approved) :
    ∃ number log, first ≤ number ∧ number ≤ last ∧ world.LoggedAt number log ∧
      Matching contract payloadHash sourceTxHash log ∧ log.approved = approved := by
  rcases List.exists_of_findSome?_eq_some selected with ⟨entry, member, found⟩
  cases entry with
  | none => cases found
  | some log =>
    simp only [Option.ite_none_right_eq_some, Option.some.injEq] at found
    rcases EdgeWorld.mem_logs.mp member with ⟨hash, number, above, below, logged⟩
    exact ⟨number, log, above, below, logged, ⟨found.1.1, hash, found.1.2⟩, found.2⟩

theorem selectApproval_lacks
    (selected : selectApproval contract sourceTxHash (world.logs payloadHash first last) = none) :
    Lacks world (Matching contract payloadHash sourceTxHash) (first, last) := by
  rintro number above below log logged ⟨same, hash, source⟩
  have member := EdgeWorld.mem_logs.mpr ⟨hash, number, above, below, logged⟩
  have passed := List.findSome?_eq_none_iff.mp selected (some log) member
  simp only [same, true_and, if_pos source, reduceCtorEq] at passed

theorem scanApprovals_scans :
    (scanApprovals gateway contract payloadHash sourceTxHash start last).Traces
      fun exchanges outcome =>
        (∀ exchange ∈ exchanges, Honest gateway world exchange.1 exchange.2) →
          Scans world (Matching contract payloadHash sourceTxHash) start (last + 1)
            (exchanges.filterMap windowOf) outcome := by
  induction last using Nat.strong_induction_on with
  | _ last ih =>
    rw [scanApprovals]
    by_cases inside : start ≤ last
    · rw [if_pos inside]
      generalize window : max (last - (logWindowBlocks - 1)) start = first
      have narrow : last + 1 - first ≤ logWindowBlocks := by
        rw [logWindowBlocks] at window ⊢
        omega
      have nonempty : first ≤ last := by omega
      have above : start ≤ first := by omega
      intro reply
      cases reply with
      | error message =>
        intro _
        exact .of_last above nonempty narrow (by simp) (by simp)
      | ok logs =>
        have answered : ∀ exchanges : List (Exchange relayInterface),
            (∀ exchange ∈ ⟨.edgeLogs gateway payloadHash first last, .ok logs⟩ :: exchanges,
              Honest gateway world exchange.1 exchange.2) →
            logs = world.logs payloadHash first last := by
          intro exchanges honest
          exact honest _ List.mem_cons_self rfl logs rfl
        cases selected : selectApproval contract sourceTxHash logs with
        | some approved =>
          simp only [Program.bind, Program.check, selected]
          intro honest
          rw [answered [] honest] at selected
          refine .of_last above nonempty narrow (by simp) ?_
          rintro _ ⟨rfl⟩
          exact selectApproval_found selected
        | none =>
          simp only [Program.bind, Program.check, selected]
          have lacks : ∀ exchanges : List (Exchange relayInterface), _ → _ :=
            fun exchanges honest => selectApproval_lacks (answered exchanges honest ▸ selected)
          by_cases ends : first = start
          · rw [if_pos ends]
            intro honest
            exact .cons above nonempty narrow (lacks [] honest)
              (.of_nothing (by simp) fun _ => ends.le)
          · rw [if_neg ends]
            apply (ih (first - 1) (by omega)).mono
            intro exchanges outcome rest honest
            have scans := rest fun exchange member =>
              honest exchange (List.mem_cons_of_mem _ member)
            rw [Nat.sub_add_cancel (by omega)] at scans
            exact .cons above nonempty narrow (lacks exchanges honest) scans
    · rw [if_neg inside]
      intro _
      exact .of_nothing (by simp) fun _ => not_le.mp inside

end Windows

/-- Whatever the requests answer, truthfully or with an error, the scan from `start` asks
for windows of the blocks up to the newest one as described. -/
theorem findContractCallApproved_scans
    (world : EdgeWorld)
    (gateway contract : Address)
    (payloadHash : Digest)
    (sourceTxHash : Option Digest)
    (start : Nat) :
    (findContractCallApproved gateway contract payloadHash sourceTxHash start).Traces
      fun exchanges outcome =>
        (∀ exchange ∈ exchanges, Honest gateway world exchange.1 exchange.2) →
          Scans world (Matching contract payloadHash sourceTxHash) start
            (world.chain.latest + 1) (exchanges.filterMap windowOf) outcome := by
  intro reply
  cases reply with
  | error message =>
    intro _
    exact .of_nothing (by simp) (by simp)
  | ok latest =>
    apply (@scanApprovals_scans world start latest contract gateway payloadHash sourceTxHash).mono
    intro exchanges outcome rest honest
    have newest : latest = world.chain.latest := honest _ List.mem_cons_self latest rfl
    rw [← newest]
    exact rest fun exchange member => honest exchange (List.mem_cons_of_mem _ member)

/-- The scan of one block for an approval of one source transaction: the block is the only
window, and the approval is found in it. -/
theorem genuine_approval_is_scanned :
    Scans forgedWorld (Matching 2 [7] (some [1])) 0 1 [(0, 0)] (.ok (some genuineLog.approved)) := by
  have traces := findContractCallApproved_scans forgedWorld 1 2 [7] (some [1]) 0 (Except.ok 0)
  have scanned : (scanApprovals 1 2 [7] (some [1]) 0 0).Traces _ := traces
  rw [scanApprovals, if_pos (le_refl 0)] at scanned
  have reached := scanned (Except.ok [some forgedLog, some genuineLog])
  apply reached
  rintro exchange member
  simp only [List.mem_cons, List.not_mem_nil, or_false] at member
  rcases member with rfl | rfl
  · rintro number ⟨rfl⟩
    rfl
  · rintro _ logs ⟨rfl⟩
    decide

end Axe.Propose

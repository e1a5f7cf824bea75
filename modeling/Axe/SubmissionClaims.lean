import Axe.ProposalPlans

namespace Axe.Propose

/-!
# Proposals that are submitted at the same time

Before its broadcast a process creates a marker for its plan and a file for each call, each only
if it is absent, and nothing removes them. Processes interleave in any order and stop anywhere;
the lock and the history of the hub only hold them back further.
-/

inductive GuardStep where
  | check (path : String)
  | claim (path : String)
  deriving DecidableEq

def GuardStep.path : GuardStep → String
  | check path | claim path => path

/-- The files, each with the process and the step that created it, and how far processes are. -/
structure Desk where
  owner : String → Option (Nat × Nat)
  taken : Nat → Nat

namespace Desk

variable (steps : Nat → List GuardStep) {desk : Desk}

def initial : Desk := ⟨fun _ => none, fun _ => 0⟩

/-- A step that finds its file is refused, and its process gets no further. -/
def next (desk : Desk) (id : Nat) : Desk :=
  match (steps id)[desk.taken id]? with
  | none => desk
  | some step =>
    if (desk.owner step.path).isSome then desk
    else
      ⟨fun path => if step = .claim path then some (id, desk.taken id) else desk.owner path,
        Function.update desk.taken id (desk.taken id + 1)⟩

/-- Every file belongs to the step that claims it. -/
def Kept (desk : Desk) : Prop :=
  ∀ id index path, index < desk.taken id → (steps id)[index]? = some (.claim path) →
    desk.owner path = some (id, index)

variable {steps}

theorem Kept.next (kept : desk.Kept steps) (id : Nat) : (desk.next steps id).Kept steps := by
  unfold Desk.next
  split
  · exact kept
  rename_i step found
  split
  · exact kept
  rename_i free
  intro other index path below claims
  by_cases now : other = id ∧ index = desk.taken id
  · obtain ⟨rfl, rfl⟩ := now
    cases found.symm.trans claims
    exact if_pos rfl
  · have before : index < desk.taken other := by
      by_cases same : other = id
      · subst same
        simp only [Function.update_self] at below
        omega
      · simpa only [Function.update_of_ne same] using below
    have owned := kept other index path before claims
    refine (if_neg ?_).trans owned
    -- A file that was created before would have stopped this step.
    rintro rfl
    simp [GuardStep.path, owned] at free

theorem kept_of_events (events : List Nat) :
    (events.foldl (next steps) initial).Kept steps := by
  apply List.foldlRecOn events _ (fun _ _ _ below => absurd below (Nat.not_lt_zero _))
  exact fun _ kept id _ => kept.next id

end Desk

section Submissions

variable (formats : PlanFormats) (dataDir : String)

/-- What `submit_new` does before it claims the calls, without `--new-proposal`. -/
def guardSteps (plan : ProposalPlan) : List GuardStep :=
  let checks := (claimPaths formats dataDir plan).map .check
  .check (markerPath formats dataDir plan) :: checks ++
    .claim (markerPath formats dataDir plan) :: checks

/-- All steps before the broadcast. -/
def submitNew (plan : ProposalPlan) : List GuardStep :=
  guardSteps formats dataDir plan ++ (claimPaths formats dataDir plan).map .claim

/-- The calls that may have been broadcast, by process and place. -/
def broadcastCalls (plans : Nat → ProposalPlan) (desk : Desk) : Set (Nat × Nat) :=
  {spot | spot.2 < (plans spot.1).calls.length ∧
    (submitNew formats dataDir (plans spot.1)).length ≤ desk.taken spot.1}

variable {formats dataDir}

theorem owner_of_broadcast {plans : Nat → ProposalPlan} {desk : Desk}
    (kept : desk.Kept fun id => submitNew formats dataDir (plans id)) {spot : Nat × Nat}
    (sent : spot ∈ broadcastCalls formats dataDir plans desk) {call : EdgeCall}
    (found : (plans spot.1).calls[spot.2]? = some call) :
    desk.owner (claimPath formats dataDir call) =
      some (spot.1, (guardSteps formats dataDir (plans spot.1)).length + spot.2) := by
  apply kept
  · refine Nat.lt_of_lt_of_le ?_ sent.2
    simpa [submitNew, claimPaths] using sent.1
  · simp [submitNew, claimPaths, List.getElem?_append_right, found]

/-- In every interleaving no two broadcast calls have one key, not even within a plan. -/
theorem calls_are_broadcast_once
    (plans : Nat → ProposalPlan)
    (events : List Nat) :
    Set.InjOn (fun spot => (plans spot.1).calls[spot.2]?.map (EdgeCall.coverageKey formats))
      (broadcastCalls formats dataDir plans (events.foldl
        (Desk.next fun id => submitNew formats dataDir (plans id)) .initial)) := by
  rintro ⟨id, place⟩ sent ⟨other, again⟩ sentToo oneKey
  have found := List.getElem?_eq_getElem sent.1
  have foundToo := List.getElem?_eq_getElem sentToo.1
  simp only [found, foundToo, Option.map_some, Option.some.injEq] at oneKey
  have owned := owner_of_broadcast (Desk.kept_of_events events) sent found
  rw [claimPath, oneKey, ← claimPath,
    owner_of_broadcast (Desk.kept_of_events events) sentToo foundToo] at owned
  simp only [Option.some.injEq, Prod.mk.injEq] at owned
  obtain ⟨rfl, places⟩ := owned
  exact Prod.ext rfl (Nat.add_left_cancel places).symm

end Submissions

end Axe.Propose

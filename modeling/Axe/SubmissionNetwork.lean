import Mathlib.Data.List.Nodup
import Axe.ProgramGuard

namespace Axe

/-!
# Submitting signed envelopes

A call signs envelopes and hands them to a network.  An envelope has a slot, for
example a sender and a nonce, and a slot is used at most once.  What the network
accepted waits; it can land at any later moment, or be forgotten.  Others use
the network as well.

Signing an envelope for another slot is safe only when the earlier envelopes are
closed: they did not land, and they cannot land any more.  Then at most one of
the envelopes of the call ever lands, whatever the network does.
-/

/-- What has landed, what waits and what is ours; a slot is used at most once. -/
structure Network {Envelope Slot : Type} (slot : Envelope → Slot) where
  landed : List (Envelope × Bool)
  waiting : List Envelope
  ours : List Envelope
  once : (landed.map fun entry => slot entry.1).Nodup

namespace Network

variable {Envelope Slot : Type} {slot : Envelope → Slot}

/-- An envelope with the slot has landed. -/
def Uses (network : Network slot) (place : Slot) : Prop :=
  place ∈ network.landed.map fun entry => slot entry.1

def Counted (counts : Bool → Prop) (network : Network slot) (envelope : Envelope) : Prop :=
  ∃ outcome, (envelope, outcome) ∈ network.landed ∧ counts outcome

/-- An envelope did not land so that it counts, and cannot land any more. -/
def Closed (counts : Bool → Prop) (network : Network slot) (envelope : Envelope) : Prop :=
  ¬ Counted counts network envelope ∧ (envelope ∉ network.waiting ∨ network.Uses (slot envelope))

/-- An envelope neither landed nor waits. -/
def Absent (network : Network slot) (envelope : Envelope) : Prop :=
  (∀ outcome, (envelope, outcome) ∉ network.landed) ∧ envelope ∉ network.waiting

/--
What the network and its other users do without the call.  Of the envelopes of
the call only those land that waited, and none of them is queued.
-/
structure Drift (network later : Network slot) : Prop where
  ours : later.ours = network.ours
  kept : network.landed ⊆ later.landed
  landed : ∀ entry ∈ later.landed,
    entry ∈ network.landed ∨ entry.1 ∈ network.waiting ∨ entry.1 ∉ network.ours
  waiting : ∀ envelope ∈ later.waiting, envelope ∈ network.waiting ∨ envelope ∉ network.ours

/-- A drift, a signature, or the acceptance of the envelope that was signed last. -/
inductive Step : Network slot → Network slot → Prop where
  | drift
      {network later : Network slot}
      (drifts : Drift network later) :
      Step network later
  | sign
      {network : Network slot}
      (envelope : Envelope) :
      Step network { network with ours := network.ours ++ [envelope] }
  | accept
      {network later : Network slot}
      (envelope : Envelope)
      (latest : network.ours.getLast? = some envelope)
      (ours : later.ours = network.ours)
      (landed : later.landed = network.landed)
      (waiting : ∀ other ∈ later.waiting, other ∈ network.waiting ∨ other = envelope) :
      Step network later

/-- A drift that changes at most what waits. -/
theorem Drift.requeue
    {network later : Network slot}
    (ours : later.ours = network.ours)
    (landed : later.landed = network.landed)
    (waiting : ∀ envelope ∈ later.waiting, envelope ∈ network.waiting ∨ envelope ∉ network.ours) :
    Drift network later where
  ours := ours
  kept := by
    rw [landed]
    exact List.Subset.refl _
  landed := fun _ member => .inl (landed ▸ member)
  waiting := waiting

theorem Drift.refl (network : Network slot) : Drift network network :=
  .requeue rfl rfl fun _ member => .inl member

/-- A step signs no envelope for another slot while an earlier one is open. -/
def SignsSafely (counts : Bool → Prop) (network later : Network slot) : Prop :=
  ∀ envelope ∈ later.ours.getLast?, later.ours = network.ours ++ [envelope] →
    ∀ old ∈ network.ours, slot old = slot envelope ∨ Closed counts network old

/-- A step of the network that signs safely. -/
def SafeStep (counts : Bool → Prop) (network later : Network slot) : Prop :=
  Step network later ∧ SignsSafely counts network later

/-- All envelopes of the call that are still open have the slot of the last one. -/
def OneOpenSlot (counts : Bool → Prop) (network : Network slot) : Prop :=
  ∀ latest, network.ours.getLast? = some latest → ∀ envelope ∈ network.ours,
      slot envelope = slot latest ∨ Closed counts network envelope

variable {counts : Bool → Prop} {network later : Network slot}

theorem Uses.mono {place : Slot} (uses : network.Uses place)
    (kept : network.landed ⊆ later.landed) :
    later.Uses place := by
  obtain ⟨entry, member, rfl⟩ := List.mem_map.mp uses
  exact List.mem_map_of_mem (kept member)

theorem landed_unique {first second : Envelope × Bool} (firstLanded : first ∈ network.landed)
    (secondLanded : second ∈ network.landed) (sameSlot : slot first.1 = slot second.1) :
    first = second :=
  List.inj_on_of_nodup_map network.once firstLanded secondLanded sameSlot

/-- A step that signs nothing signs safely. -/
theorem SafeStep.unsigned
    (step : Step network later)
    (ours : later.ours = network.ours) :
    SafeStep counts network later := by
  refine ⟨step, ?_⟩
  intro envelope _ signed
  rw [ours] at signed
  exact absurd (congrArg List.length signed) (by simp)

theorem SafeStep.refl (network : Network slot) : SafeStep counts network network :=
  .unsigned (.drift (.refl network)) rfl

/-- Signing is safe when every earlier envelope has the same slot or is closed. -/
theorem SafeStep.sign
    {envelope : Envelope}
    (safe : ∀ old ∈ network.ours, slot old = slot envelope ∨ Closed counts network old) :
    SafeStep counts network { network with ours := network.ours ++ [envelope] } := by
  refine ⟨.sign envelope, ?_⟩
  intro signed isLast _
  have same : signed = envelope := by simpa using isLast.symm
  exact same ▸ safe

theorem Absent.closed {envelope : Envelope} (absent : network.Absent envelope) :
    Closed counts network envelope :=
  ⟨fun ⟨outcome, landed, _⟩ => absent.1 outcome landed, .inl absent.2⟩

/-- What neither landed nor waits stays so, if it is an envelope of the call. -/
theorem Absent.drift
    {envelope : Envelope}
    (absent : network.Absent envelope)
    (own : envelope ∈ network.ours)
    (drifts : Drift network later) :
    later.Absent envelope := by
  constructor
  · intro outcome landed
    rcases drifts.landed _ landed with before | wasWaiting | foreign
    · exact absent.1 outcome before
    · exact absent.2 wasWaiting
    · exact foreign own
  · intro waits
    rcases drifts.waiting _ waits with before | foreign
    · exact absent.2 before
    · exact foreign own

/-- A closed envelope stays closed. -/
theorem Closed.drift
    {envelope : Envelope}
    (closed : Closed counts network envelope)
    (own : envelope ∈ network.ours)
    (drifts : Drift network later) :
    Closed counts later envelope := by
  obtain ⟨ours, kept, landed, waiting⟩ := drifts
  obtain ⟨uncounted, shut⟩ := closed
  constructor
  · rintro ⟨outcome, nowLanded, counted⟩
    rcases landed _ nowLanded with before | wasWaiting | foreign
    · exact uncounted ⟨outcome, before, counted⟩
    · rcases shut with notWaiting | used
      · exact notWaiting wasWaiting
      · -- The slot was used before, so the entry that landed is the old one.
        obtain ⟨old, oldLanded, sameSlot⟩ := List.mem_map.mp used
        have same : old = (envelope, outcome) := landed_unique (kept oldLanded) nowLanded sameSlot
        exact uncounted ⟨outcome, same ▸ oldLanded, counted⟩
    · exact foreign own
  · rcases shut with notWaiting | used
    · left
      intro nowWaiting
      rcases waiting _ nowWaiting with before | foreign
      · exact notWaiting before
      · exact foreign own
    · right
      exact used.mono kept

/-- A closed envelope stays closed when an envelope of another slot is accepted. -/
theorem Closed.accept
    {envelope accepted : Envelope}
    (closed : Closed counts network envelope)
    (other : envelope ≠ accepted)
    (landed : later.landed = network.landed)
    (waiting : ∀ other ∈ later.waiting, other ∈ network.waiting ∨ other = accepted) :
    Closed counts later envelope := by
  obtain ⟨uncounted, shut⟩ := closed
  constructor
  · rintro ⟨outcome, nowLanded, counted⟩
    exact uncounted ⟨outcome, landed ▸ nowLanded, counted⟩
  · rcases shut with notWaiting | used
    · left
      intro nowWaiting
      rcases waiting _ nowWaiting with wasWaiting | isAccepted
      · exact notWaiting wasWaiting
      · exact other isAccepted
    · right
      exact used.mono (by rw [landed]; exact List.Subset.refl _)

theorem OneOpenSlot.step
    (before : OneOpenSlot counts network)
    (safeStep : SafeStep counts network later) :
    OneOpenSlot counts later := by
  obtain ⟨step, safely⟩ := safeStep
  intro latest isLatest envelope own
  cases step with
  | drift drifts =>
    rw [drifts.ours] at isLatest own
    rcases before latest isLatest envelope own with same | closed
    · exact .inl same
    · exact .inr (closed.drift own drifts)
  | sign added =>
    have isAdded : latest = added := by simpa using isLatest.symm
    subst isAdded
    rcases List.mem_append.mp own with old | new
    · exact safely latest isLatest rfl envelope old
    · left
      rw [List.mem_singleton.mp new]
  | accept accepted accepting ours landed waiting =>
    rw [ours] at isLatest own
    have same : accepted = latest := Option.some.inj (accepting.symm.trans isLatest)
    rcases before latest isLatest envelope own with sameSlot | closed
    · exact .inl sameSlot
    · by_cases isAccepted : envelope = accepted
      · left
        rw [isAccepted, same]
      · exact .inr (closed.accept isAccepted landed waiting)

theorem OneOpenSlot.at_most_one (single : OneOpenSlot counts network) {first second : Envelope}
    (firstOwn : first ∈ network.ours) (secondOwn : second ∈ network.ours)
    (firstLanded : Counted counts network first) (secondLanded : Counted counts network second) :
    first = second := by
  obtain ⟨latest, isLatest⟩ := Option.ne_none_iff_exists'.mp
      (mt List.getLast?_eq_none_iff.mp (List.ne_nil_of_mem firstOwn))
  have inSlot : ∀ {envelope}, envelope ∈ network.ours → Counted counts network envelope →
        slot envelope = slot latest := by
    intro envelope own counted
    rcases single latest isLatest envelope own with same | closed
    · exact same
    · exact absurd counted closed.1
  obtain ⟨firstOutcome, firstEntry, _⟩ := firstLanded
  obtain ⟨secondOutcome, secondEntry, _⟩ := secondLanded
  have same := landed_unique firstEntry secondEntry
      ((inSlot firstOwn ⟨firstOutcome, firstEntry, ‹_›⟩).trans
        (inSlot secondOwn ⟨secondOutcome, secondEntry, ‹_›⟩).symm)
  exact (Prod.mk.inj same).1

section Runs

variable {api : Interface} {Error Local World : Type}

/--
The at-most-once rule.  A call that takes only steps of the network and signs
safely, in a world that drifts, lands at most one of its envelopes in every run.
-/
theorem at_most_once
    {machine : Machine api Local World}
    {view : World → Network slot}
    {permit : Service.Permit Local World}
    {start last : Config api Error Local World}
    (evolve : ∀ {world later}, machine.evolve world later → Drift (view world) (view later))
    (run : (Service.once machine).Runs permit start last)
    (obedient : (Service.once machine).Obedient
      (fun _ world _ later => SafeStep counts (view world) (view later)) start)
    (fresh : (view start.world).ours = [])
    {first second : Envelope}
    (firstOwn : first ∈ (view last.world).ours)
    (secondOwn : second ∈ (view last.world).ours)
    (firstLanded : Counted counts (view last.world) first)
    (secondLanded : Counted counts (view last.world) second) :
    first = second := by
  let holds : Local → World → Prop := fun _ world => OneOpenSlot counts (view world)
  have single : holds last.here last.world := by
    apply (Service.Runs.invariantFrom ?_ ?_ run obedient ?_).1
    · intro here world here' world' change _ before
      apply OneOpenSlot.step before
      cases change with
      | environment evolved =>
        have drifts := evolve evolved
        exact .unsigned (.drift drifts) drifts.ours
      | boot order => exact order.elim
      | perform kept => exact kept
      | stop => exact .refl _
    · intro _ _ _ order
      exact order.elim
    · intro latest isLatest
      rw [fresh] at isLatest
      cases isLatest
  exact single.at_most_one firstOwn secondOwn firstLanded secondLanded

end Runs

section Queue

variable [DecidableEq Slot]

def enqueue (network : Network slot) (envelope : Envelope) : Network slot :=
  { network with
    waiting := envelope :: network.waiting.filter fun other => slot other ≠ slot envelope }

variable {envelope : Envelope}

theorem mem_enqueue {other : Envelope} (member : other ∈ (network.enqueue envelope).waiting) :
    other ∈ network.waiting ∨ other = envelope := by
  rcases List.mem_cons.mp member with same | old
  · exact .inr same
  · exact .inl (List.mem_of_mem_filter old)

theorem enqueue_step (latest : network.ours.getLast? = some envelope) :
    Step network (network.enqueue envelope) :=
  .accept envelope latest rfl rfl fun _ member => mem_enqueue member

end Queue

section Moves

variable [DecidableEq Envelope] [DecidableEq Slot]

instance (network : Network slot) (place : Slot) : Decidable (network.Uses place) :=
  inferInstanceAs (Decidable (_ ∈ _))

instance (network : Network slot) (envelope : Envelope) : Decidable (network.Absent envelope) :=
  decidable_of_iff
    ((∀ entry ∈ network.landed, entry.1 ≠ envelope) ∧ envelope ∉ network.waiting)
    (by
      constructor
      · rintro ⟨landed, waiting⟩
        exact ⟨fun outcome member => landed _ member rfl, waiting⟩
      · rintro ⟨landed, waiting⟩
        refine ⟨?_, waiting⟩
        rintro ⟨_, outcome⟩ member rfl
        exact landed outcome member)

/-- Settle an envelope, if its slot is not used yet. -/
def settle (network : Network slot) (envelope : Envelope)
    (outcome : Bool) : Option (Network slot) :=
  if unused : ¬ network.Uses (slot envelope) then
    some
      { network with
        landed := network.landed ++ [(envelope, outcome)]
        waiting := network.waiting.filter fun other => other ≠ envelope
        once := by
          rw [List.map_append, List.nodup_append]
          refine ⟨network.once, List.nodup_singleton _, ?_⟩
          intro place listed other isNew same
          cases List.mem_singleton.mp isNew
          rw [same] at listed
          exact unused listed }
  else
    none

inductive Move (Envelope : Type) where
  | land (envelope : Envelope) (outcome : Bool)
  | forget (envelope : Envelope)
  | foreignWaits (envelope : Envelope)
  | foreignLands (envelope : Envelope) (outcome : Bool)
  deriving DecidableEq

/-- What happens on the network by itself. -/
def move (network : Network slot) : Move Envelope → Option (Network slot)
  | .land envelope outcome =>
    if envelope ∈ network.waiting then network.settle envelope outcome else none
  | .forget envelope =>
    some
      { network with
        waiting := network.waiting.filter fun other => other ≠ envelope }
  | .foreignWaits envelope =>
    if envelope ∈ network.ours then none else some (network.enqueue envelope)
  | .foreignLands envelope outcome =>
    if envelope ∈ network.ours then none else network.settle envelope outcome

theorem settle_drift
    {envelope : Envelope}
    {outcome : Bool}
    (included : network.settle envelope outcome = some later)
    (may : envelope ∈ network.waiting ∨ envelope ∉ network.ours) :
    Drift network later := by
  unfold settle at included
  split at included
  · cases included
    constructor
    · rfl
    · exact List.subset_append_left _ _
    · intro entry member
      rcases List.mem_append.mp member with old | new
      · exact .inl old
      · cases List.mem_singleton.mp new
        exact .inr may
    · intro other member
      exact .inl (List.mem_of_mem_filter member)
  · cases included

variable {step : Move Envelope}

theorem move_drift (moved : network.move step = some later) : Drift network later := by
  cases step with
  | land envelope outcome =>
    simp only [move] at moved
    split at moved
    · exact settle_drift moved (.inl ‹_›)
    · cases moved
  | forget envelope =>
    cases moved
    apply Drift.requeue
    · rfl
    · rfl
    · intro other member
      exact .inl (List.mem_of_mem_filter member)
  | foreignWaits envelope =>
    simp only [move] at moved
    split at moved
    · cases moved
    · rename_i foreign
      cases moved
      apply Drift.requeue
      · rfl
      · rfl
      · intro other member
        rcases mem_enqueue member with old | isNew
        · exact .inl old
        · exact .inr (isNew ▸ foreign)
  | foreignLands envelope outcome =>
    simp only [move] at moved
    split at moved
    · cases moved
    · exact settle_drift moved (.inr ‹_›)

end Moves

end Network

end Axe

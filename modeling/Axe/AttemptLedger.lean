import Mathlib.Data.List.Chain

namespace Axe

/-!
# Ledgers of attempts

One task is tried again and again.  The ledger of the task has the attempts
that were replaced or retired, and the attempt that is current now, if any.
Attempts that claim the same slot compete, and at most one of them can succeed.

The two results of this module are the ones a recovery protocol needs: the
history only grows at its end, and at most one attempt succeeds as long as a
slot is given up only when no attempt for it can succeed any more.
-/

/-- The attempts for one action: those that were given up, and the current one. -/
structure Ledger (Attempt : Type) where
  past : List Attempt
  current : Option Attempt
  deriving DecidableEq

namespace Ledger

variable {Attempt Slot : Type}

/-- All attempts, the current one last. -/
def history (ledger : Ledger Attempt) : List Attempt := ledger.past ++ ledger.current.toList

/-- What may become of the attempts: nothing is ever removed from the past. -/
inductive Move : Ledger Attempt → Ledger Attempt → Prop where
  | keep {ledger : Ledger Attempt} : Move ledger ledger
  | record {past : List Attempt} (attempt : Attempt) : Move ⟨past, none⟩ ⟨past, some attempt⟩
  | replace {past : List Attempt} {old : Attempt} (attempt : Attempt) :
      Move ⟨past, some old⟩ ⟨past ++ [old], some attempt⟩
  | retire {past : List Attempt} {old : Attempt} : Move ⟨past, some old⟩ ⟨past ++ [old], none⟩

variable {before after : Ledger Attempt}

theorem Move.history_grows (move : Move before after) : before.history <+: after.history := by
  cases move with
  | keep => exact List.prefix_rfl
  | record attempt => exact ⟨[attempt], by simp [history]⟩
  | replace attempt => exact ⟨[attempt], by simp [history]⟩
  | retire => exact ⟨[], by simp [history]⟩

/-- An attempt of the past is finished, unless the current one has its slot. -/
def Settled (slot : Attempt → Slot) (finished : Attempt → Prop) (ledger : Ledger Attempt) : Prop :=
  ∀ attempt ∈ ledger.past, (∀ latest, ledger.current = some latest → slot attempt ≠ slot latest) →
      finished attempt

theorem settled_nil (slot : Attempt → Slot) (finished : Attempt → Prop) (current : Option Attempt) :
    Settled slot finished ⟨[], current⟩ := by
  intro attempt member
  exact absurd member List.not_mem_nil

variable {slot : Attempt → Slot} {finished : Attempt → Prop} {ledger : Ledger Attempt}

theorem Settled.mono {later : Attempt → Prop} (settled : Settled slot finished ledger)
    (grows : ∀ attempt, finished attempt → later attempt) :
    Settled slot later ledger :=
  fun attempt member other => grows attempt (settled attempt member other)

/--
A change keeps a ledger settled when replacements stay in their slot and a slot
is retired only with all its attempts finished.
-/
theorem Settled.move
    (settled : Settled slot finished before)
    (move : Move before after)
    (sameSlot : ∀ old attempt, before.current = some old →
      after.current = some attempt → slot attempt = slot old)
    (retired : ∀ old, before.current = some old → after.current = none → ∀ attempt ∈ before.history,
      slot attempt = slot old → finished attempt) :
    Settled slot finished after := by
  cases move with
  | keep => exact settled
  | record attempt =>
    intro earlier member _
    exact settled earlier member (by simp)
  | @replace past old attempt =>
    have unmoved : slot attempt = slot old := sameSlot old attempt rfl rfl
    intro earlier member other
    have apart : slot earlier ≠ slot attempt := other attempt rfl
    rcases List.mem_append.mp member with inPast | isOld
    · refine settled earlier inPast ?_
      rintro latest ⟨⟩
      rwa [← unmoved]
    · have same : earlier = old := by simpa using isOld
      subst same
      exact absurd unmoved.symm apart
  | @retire past old =>
    intro earlier member _
    have listed : earlier ∈ (Ledger.mk past (some old)).history := member
    by_cases sameAsOld : slot earlier = slot old
    · exact retired old rfl rfl earlier listed sameAsOld
    · rcases List.mem_append.mp member with inPast | isOld
      · refine settled earlier inPast ?_
        rintro latest ⟨⟩
        exact sameAsOld
      · have same : earlier = old := by simpa using isOld
        exact absurd (congrArg slot same) sameAsOld

theorem Settled.slot_of_unfinished (settled : Settled slot finished ledger) {attempt : Attempt}
    (member : attempt ∈ ledger.history) (unfinished : ¬ finished attempt) :
    ∃ latest, ledger.current = some latest ∧ slot attempt = slot latest := by
  rcases List.mem_append.mp member with inPast | isCurrent
  · by_contra none
    refine unfinished (settled attempt inPast ?_)
    intro latest current same
    exact none ⟨latest, current, same⟩
  · have current : ledger.current = some attempt := by simpa using isCurrent
    exact ⟨attempt, current, rfl⟩

theorem Settled.same_slot (settled : Settled slot finished ledger) {first second : Attempt}
    (firstMember : first ∈ ledger.history) (secondMember : second ∈ ledger.history)
    (firstOpen : ¬ finished first) (secondOpen : ¬ finished second) :
    slot first = slot second := by
  obtain ⟨latest, current, firstSlot⟩ := settled.slot_of_unfinished firstMember firstOpen
  obtain ⟨other, currentToo, secondSlot⟩ := settled.slot_of_unfinished secondMember secondOpen
  have same : latest = other := Option.some.inj (current.symm.trans currentToo)
  rw [firstSlot, secondSlot, same]

theorem Move.isChain {link : Attempt → Attempt → Prop} (move : Move before after)
    (linked : before.history.IsChain link)
    (added : ∀ last attempt, before.history.getLast? = some last →
        after.history = before.history ++ [attempt] → link last attempt) :
    after.history.IsChain link := by
  have extend : ∀ attempt, after.history = before.history ++ [attempt] →
        after.history.IsChain link := by
    intro attempt grown
    rw [grown]
    refine linked.append (List.isChain_singleton attempt) ?_
    intro last isLast first isFirst
    have same : attempt = first := by simpa using isFirst
    subst same
    exact added last attempt (by simpa using isLast) grown
  cases move with
  | keep => exact linked
  | record attempt => exact extend attempt (by simp [history])
  | replace attempt => exact extend attempt (by simp [history])
  | retire => simpa [history] using linked

end Ledger

end Axe

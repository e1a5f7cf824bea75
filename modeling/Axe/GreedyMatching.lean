import Mathlib.Data.List.Perm.Basic
import Mathlib.Data.List.Sigma

namespace Axe

/-!
# Greedy matching

Requests are served one after the other, each by the first item that accepts it and that no
earlier request has used.  In general such a search can get stuck although all requests could be
served.  It cannot where acceptance is the equality of keys: then it succeeds exactly when items
and requests have the same keys, each equally often.
-/

variable {Item Request Reply Key : Type}

/-- The first unused item that is accepted. -/
def firstUnused (accept : Item → Option Reply) (used : Nat → Bool)
    (items : List Item) : Option (Nat × Reply) :=
  items.zipIdx.findSome? fun entry =>
    if used entry.2 then none else (accept entry.1).map fun reply => (entry.2, reply)

/-- Give each request the first unused item that it accepts. -/
def matchRequests (accept : Request → Item → Option Reply) (items : List Item) :
    List Request → (Nat → Bool) → Option (List Reply)
  | [], _ => some []
  | request :: rest, used =>
    match firstUnused (accept request) used items with
    | none => none
    | some (index, reply) =>
      (matchRequests accept items rest fun other => other = index || used other).map
        fun replies => reply :: replies

/-- The items that are not used, with their places. -/
def unused (used : Nat → Bool) (items : List Item) : List (Item × Nat) :=
  items.zipIdx.filter fun entry => !used entry.2

theorem filter_perm_cons {Element : Type} {element : Element} {before after : Element → Bool}
    {list : List Element} (distinct : list.Nodup) (member : element ∈ list)
    (gone : after element = false)
    (splits : ∀ other ∈ list, before other = true ↔ other = element ∨ after other = true) :
    (list.filter before).Perm (element :: list.filter after) := by
  induction list with
  | nil => cases member
  | cons head rest ih =>
    obtain ⟨fresh, distinctRest⟩ := List.nodup_cons.mp distinct
    have splitsRest := fun other inRest => splits other (List.mem_cons_of_mem head inRest)
    rcases List.mem_cons.mp member with rfl | inRest
    · have kept : before element = true := (splits element List.mem_cons_self).mpr (.inl rfl)
      have same : rest.filter before = rest.filter after := by
        apply List.filter_congr
        intro other inRest
        have different : other ≠ element := fun same => fresh (same ▸ inRest)
        rw [Bool.eq_iff_iff, splitsRest other inRest]
        simp [different]
      simp [kept, gone, same]
    · have different : head ≠ element := fun same => fresh (same ▸ inRest)
      have sameHead : before head = after head := by
        rw [Bool.eq_iff_iff, splits head List.mem_cons_self]
        simp [different]
      have rest := ih distinctRest inRest splitsRest
      cases kept : after head with
      | true =>
        simp only [List.filter_cons, sameHead, kept, if_true]
        exact (rest.cons head).trans (.swap element head _)
      | false =>
        simp only [List.filter_cons, sameHead, kept, Bool.false_eq_true, if_false]
        exact rest

theorem firstUnused_eq (accept : Item → Option Reply) (used : Nat → Bool) (items : List Item) :
    firstUnused accept used items = (unused used items).findSome? fun entry =>
        (accept entry.1).map fun reply => (entry.2, reply) := by
  rw [firstUnused, unused]
  generalize items.zipIdx = entries
  induction entries with
  | nil => rfl
  | cons entry rest ih =>
    cases taken : used entry.2 with
    | true => simp [taken, ih]
    | false => simp [taken, ih, List.findSome?_cons]

theorem unused_perm {used : Nat → Bool} {items : List Item} {item : Item} {index : Nat}
    (member : (item, index) ∈ unused used items) :
    (unused used items).Perm
      ((item, index) :: unused (fun other => other = index || used other) items) := by
  obtain ⟨inItems, free⟩ := List.mem_filter.mp member
  have apart := List.nodup_zipIdx_map_snd items
  refine filter_perm_cons (List.Nodup.of_map Prod.snd apart) inItems (by simp) ?_
  rintro ⟨other, position⟩ otherMember
  have same : (other, position) = (item, index) ↔ position = index := by
    constructor
    · intro sameEntry
      exact congrArg Prod.snd sameEntry
    · intro samePosition
      exact List.inj_on_of_nodup_map apart otherMember inItems samePosition
  rw [same]
  by_cases here : position = index
  · subst here
    simpa using free
  · simp [here]

theorem matchRequests_cons (accept : Request → Item → Option Reply) (items : List Item)
    (request : Request) (rest : List Request) (used : Nat → Bool) :
    (matchRequests accept items (request :: rest) used = none ∧
        ∀ entry ∈ unused used items, accept request entry.1 = none) ∨
      ∃ item index reply later, accept request item = some reply ∧
          (unused used items).Perm ((item, index) :: unused later items) ∧
            matchRequests accept items (request :: rest) used =
              (matchRequests accept items rest later).map fun replies => reply :: replies := by
  cases found : firstUnused (accept request) used items with
  | none =>
    left
    refine ⟨by rw [matchRequests, found], ?_⟩
    intro entry member
    rw [firstUnused_eq, List.findSome?_eq_none_iff] at found
    simpa using found entry member
  | some served =>
    right
    obtain ⟨index, reply⟩ := served
    have search := found
    rw [firstUnused_eq] at search
    obtain ⟨⟨item, position⟩, member, accepts⟩ := List.exists_of_findSome?_eq_some search
    obtain ⟨_, accepts, same⟩ := Option.map_eq_some_iff.mp accepts
    cases same
    exact ⟨item, position, reply, _, accepts, unused_perm member,
      by simp only [matchRequests, found]⟩

theorem perm_map_pair_iff {Source Target First Second : Type} {first second : First}
    {left : Source → Second} {right : Target → Second} {sources : List Source}
    {targets : List Target} (nonempty : sources ≠ []) :
    (sources.map fun source => (first, left source)).Perm
        (targets.map fun target => (second, right target)) ↔
      first = second ∧ (sources.map left).Perm (targets.map right) := by
  constructor
  · intro permuted
    obtain ⟨source, member⟩ := List.exists_mem_of_ne_nil sources nonempty
    have found := permuted.mem_iff.mp (List.mem_map_of_mem member)
    obtain ⟨target, _, same⟩ := List.mem_map.mp found
    have seconds := permuted.map Prod.snd
    rw [List.map_map, List.map_map] at seconds
    exact ⟨(congrArg Prod.fst same).symm, seconds⟩
  · rintro ⟨rfl, permuted⟩
    have paired := permuted.map fun second => (first, second)
    rw [List.map_map, List.map_map] at paired
    exact paired

section Keys

variable {itemKey : Item → Key} {requestKey : Request → Key} {replyOf : Item → Reply}
variable {accept : Request → Item → Option Reply} {items : List Item}

/-- A request accepts exactly the items with its key. -/
def AcceptsByKey (accept : Request → Item → Option Reply) (itemKey : Item → Key)
    (requestKey : Request → Key) (replyOf : Item → Reply) (items : List Item)
    (requests : List Request) : Prop :=
  ∀ request ∈ requests, ∀ item ∈ items,
    (itemKey item = requestKey request → accept request item = some (replyOf item)) ∧
      (itemKey item ≠ requestKey request → accept request item = none)

variable {used : Nat → Bool}

theorem mem_of_mem_unused {entry : Item × Nat} (member : entry ∈ unused used items) :
    entry.1 ∈ items :=
  (List.mem_zipIdx (List.mem_filter.mp member).1).2.2 ▸ List.getElem_mem _

variable {requests : List Request}

theorem AcceptsByKey.sameKey {request : Request} {item : Item} {index : Nat} {reply : Reply}
    {left : List (Item × Nat)}
    (byKey : AcceptsByKey accept itemKey requestKey replyOf items (request :: requests))
    (leaves : (unused used items).Perm ((item, index) :: left))
    (accepts : accept request item = some reply) :
    itemKey item = requestKey request ∧ reply = replyOf item := by
  have byThisKey := byKey request List.mem_cons_self item
    (mem_of_mem_unused (leaves.mem_iff.mpr List.mem_cons_self))
  have sameKey : itemKey item = requestKey request := by
    by_contra different
    rw [byThisKey.2 different] at accepts
    cases accepts
  rw [byThisKey.1 sameKey] at accepts
  cases accepts
  exact ⟨sameKey, rfl⟩

theorem matchRequests_sound (byKey : AcceptsByKey accept itemKey requestKey replyOf items requests)
    {replies : List Reply} (fits : (unused used items).length = requests.length)
    (served : matchRequests accept items requests used = some replies) :
    ∃ order : List Item, order.Perm ((unused used items).map Prod.fst) ∧
      replies = order.map replyOf ∧ order.map itemKey = requests.map requestKey := by
  induction requests generalizing used replies with
  | nil =>
    rw [List.length_nil, List.length_eq_zero_iff] at fits
    cases served
    exact ⟨[], by rw [fits]; exact .nil, rfl, rfl⟩
  | cons request rest ih =>
    have byKeyRest : AcceptsByKey accept itemKey requestKey replyOf items rest :=
      fun other inRest => byKey other (List.mem_cons_of_mem _ inRest)
    rcases matchRequests_cons accept items request rest used with
      ⟨stuck, _⟩ | ⟨item, index, reply, later, accepts, leaves, goesOn⟩
    · rw [stuck] at served
      cases served
    · rw [goesOn] at served
      obtain ⟨more, servedRest, rfl⟩ := Option.map_eq_some_iff.mp served
      have fitsRest : (unused later items).length = rest.length := by
        have length := leaves.length_eq
        simp only [List.length_cons] at length fits
        omega
      obtain ⟨order, uses, replied, keys⟩ := ih byKeyRest fitsRest servedRest
      rcases byKey.sameKey leaves accepts with ⟨sameKey, rfl⟩
      refine ⟨item :: order, ?_, by rw [replied, List.map_cons], by
        rw [List.map_cons, List.map_cons, keys, sameKey]⟩
      exact (uses.cons item).trans (leaves.map Prod.fst).symm

theorem matchRequests_complete
    (byKey : AcceptsByKey accept itemKey requestKey replyOf items requests)
    (same : ((unused used items).map fun entry => itemKey entry.1).Perm (requests.map requestKey)) :
    (matchRequests accept items requests used).isSome = true := by
  induction requests generalizing used with
  | nil => rfl
  | cons request rest ih =>
    have byKeyRest : AcceptsByKey accept itemKey requestKey replyOf items rest :=
      fun other inRest => byKey other (List.mem_cons_of_mem _ inRest)
    rcases matchRequests_cons accept items request rest used with
      ⟨_, refused⟩ | ⟨item, index, reply, later, accepts, leaves, goesOn⟩
    · have asked : requestKey request ∈ (unused used items).map fun entry => itemKey entry.1 :=
        same.mem_iff.mpr List.mem_cons_self
      obtain ⟨entry, member, sameKey⟩ := List.mem_map.mp asked
      have accepts := (byKey request List.mem_cons_self entry.1 (mem_of_mem_unused member)).1 sameKey
      rw [refused entry member] at accepts
      cases accepts
    · rw [goesOn, Option.isSome_map]
      have sameKey := (byKey.sameKey leaves accepts).1
      apply ih byKeyRest
      have keys := (leaves.map fun entry => itemKey entry.1).symm.trans same
      rw [List.map_cons, List.map_cons, sameKey] at keys
      exact keys.cons_inv

theorem matchRequests_map {Source : Type} (make : Source → Item)
    (accept : Request → Item → Option Reply) (sources : List Source) (requests : List Request)
    (used : Nat → Bool) :
    matchRequests accept (sources.map make) requests used =
      matchRequests (fun request source => accept request (make source)) sources requests used := by
  induction requests generalizing used with
  | nil => rfl
  | cons request rest ih =>
    have sameSearch : firstUnused (accept request) used (sources.map make) =
          firstUnused (fun source => accept request (make source)) used sources := by
      simp [firstUnused, List.zipIdx_map, List.findSome?_map, Function.comp_def]
    simp only [matchRequests, sameSearch, ih]

theorem unused_none_map_fst (items : List Item) :
    (unused (fun _ => false) items).map Prod.fst = items := by
  simp [unused]

theorem matchRequests_isSome_iff
    (byKey : AcceptsByKey accept itemKey requestKey replyOf items requests)
    (fits : items.length = requests.length) :
    (matchRequests accept items requests fun _ => false).isSome = true ↔
      (items.map itemKey).Perm (requests.map requestKey) := by
  have all := unused_none_map_fst items
  constructor
  · intro succeeds
    obtain ⟨replies, served⟩ := Option.isSome_iff_exists.mp succeeds
    have fitsUnused : (unused (fun _ => false) items).length = requests.length := by
      rw [← fits, ← List.length_map Prod.fst, all]
    obtain ⟨order, uses, _, keys⟩ := matchRequests_sound byKey fitsUnused served
    rw [all] at uses
    rw [← keys]
    exact (uses.map itemKey).symm
  · intro same
    apply matchRequests_complete byKey
    rw [← all, List.map_map] at same
    exact same

end Keys

end Axe

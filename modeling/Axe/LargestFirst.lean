import Mathlib.Data.List.Perm.Basic
import Mathlib.Data.List.Sort

namespace Axe.LargestFirst

/-!
# Taking the heaviest items first

Among all choices of a number of items, the first ones of the list with the heaviest
first have the largest total.
-/

variable {Item : Type} {weight : Item → Nat} {items chosen : List Item}

/-- The sum of the weights. -/
def total (weight : Item → Nat) : List Item → Nat
  | [] => 0
  | item :: rest => weight item + total weight rest

def Heavier (weight : Item → Nat) (first second : Item) : Prop := weight second ≤ weight first

instance heavierDecidable : DecidableRel (Heavier weight) :=
  fun first second => Nat.decLe (weight second) (weight first)

/-- The items by weight, the heaviest first. -/
def largestFirst (weight : Item → Nat) (items : List Item) : List Item :=
  items.insertionSort (Heavier weight)

theorem largestFirst_perm : (largestFirst weight items).Perm items := List.perm_insertionSort _ _

theorem largestFirst_sorted : (largestFirst weight items).Pairwise (Heavier weight) := by
  have linear : Std.Total (Heavier weight) := ⟨fun first second => Nat.le_total _ _⟩
  have transitive : IsTrans Item (Heavier weight) := ⟨fun _ _ _ less more => Nat.le_trans more less⟩
  exact List.pairwise_insertionSort _ _

theorem total_perm (same : chosen.Perm items) : total weight chosen = total weight items := by
  induction same with
  | nil => rfl
  | cons item _ ih => simp only [total, ih]
  | swap first second rest => simp only [total, Nat.add_left_comm]
  | trans _ _ before after => exact before.trans after

theorem total_append :
    total weight (items ++ chosen) = total weight items + total weight chosen := by
  induction items with
  | nil => exact (Nat.zero_add _).symm
  | cons item rest ih => simp only [List.cons_append, total, ih, Nat.add_assoc]

theorem total_take_mono {count more : Nat} (fewer : count ≤ more) :
    total weight (items.take count) ≤ total weight (items.take more) := by
  induction items generalizing count more with
  | nil => simp
  | cons item rest ih =>
    cases count with
    | zero => exact Nat.zero_le _
    | succ count =>
      cases more with
      | zero => omega
      | succ more => exact Nat.add_le_add_left (ih (Nat.le_of_succ_le_succ fewer)) _

/-- No choice of as many items is heavier than the first ones. -/
theorem total_le_take
    (sorted : items.Pairwise (Heavier weight))
    (among : chosen.Subperm items) :
    total weight chosen ≤ total weight (items.take chosen.length) := by
  induction items generalizing chosen with
  | nil =>
    rw [List.subperm_nil.mp among]
    exact Nat.le_refl _
  | cons item rest ih =>
    rcases List.pairwise_cons.mp sorted with ⟨heaviest, restSorted⟩
    rcases among with ⟨part, same, sublist⟩
    rw [← total_perm same, ← same.length_eq]
    cases sublist with
    | cons_cons _ smaller => exact Nat.add_le_add_left (ih restSorted smaller.subperm) _
    | cons _ smaller =>
      -- The first item is not chosen: it outweighs any one of the chosen ones.
      cases part with
      | nil => exact Nat.zero_le _
      | cons first others =>
        have lighter := heaviest first (smaller.subset List.mem_cons_self)
        have bound := ih restSorted (List.sublist_of_cons_sublist smaller).subperm
        exact Nat.add_le_add lighter bound

end Axe.LargestFirst

import Mathlib.Data.BitVec

namespace Axe

/-!
# Checked arithmetic

Sums, differences and products of unsigned machine integers that are refused when they
do not fit.
-/

variable {width : Nat}

/-- The value as a word, if it fits. -/
def fitting (width : Nat) (value : Nat) : Option (BitVec width) :=
  if value < 2 ^ width then some (BitVec.ofNat width value) else none

/-- Addition that fails on overflow. -/
def checkedAdd (first second : BitVec width) : Option (BitVec width) :=
  fitting width (first.toNat + second.toNat)

/-- Subtraction that fails below zero. -/
def checkedSub (first second : BitVec width) : Option (BitVec width) :=
  if second ≤ first then some (first - second) else none

theorem toNat_of_fitting {value : Nat} {result : BitVec width}
    (fits : fitting width value = some result) :
    result.toNat = value := by
  unfold fitting at fits
  split at fits
  · rename_i small
    cases fits
    rw [BitVec.toNat_ofNat, Nat.mod_eq_of_lt small]
  · cases fits

theorem toNat_of_checkedAdd {first second sum : BitVec width}
    (fits : checkedAdd first second = some sum) :
    sum.toNat = first.toNat + second.toNat :=
  toNat_of_fitting fits

theorem toNat_of_checkedSub {first second difference : BitVec width}
    (fits : checkedSub first second = some difference) :
    difference.toNat + second.toNat = first.toNat := by
  unfold checkedSub at fits
  split at fits
  · rename_i ordered
    cases fits
    have ordered : second.toNat ≤ first.toNat := ordered
    rw [BitVec.toNat_sub_of_le ordered]
    omega
  · cases fits

end Axe

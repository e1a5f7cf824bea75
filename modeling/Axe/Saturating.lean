import Mathlib.Data.BitVec

namespace Axe

/-!
# Saturating arithmetic

Sums, differences and products of unsigned machine integers that stop at the
largest and the smallest value instead of wrapping around.
-/

variable {width : Nat}

/-- The value as a word, or the largest word. -/
def saturate (width : Nat) (value : Nat) : BitVec width :=
  if value < 2 ^ width then BitVec.ofNat width value else BitVec.allOnes width

def saturatingAdd (first second : BitVec width) : BitVec width :=
  saturate width (first.toNat + second.toNat)

def saturatingSub (first second : BitVec width) : BitVec width :=
  saturate width (first.toNat - second.toNat)

theorem toNat_saturate (value : Nat) :
    (saturate width value).toNat = min value (2 ^ width - 1) := by
  unfold saturate
  split
  · rename_i fits
    rw [BitVec.toNat_ofNat, Nat.mod_eq_of_lt fits]
    omega
  · rw [BitVec.toNat_allOnes]
    omega

theorem toNat_saturatingAdd {first second : BitVec width}
    (fits : first.toNat + second.toNat < 2 ^ width) :
    (saturatingAdd first second).toNat = first.toNat + second.toNat := by
  rw [saturatingAdd, toNat_saturate]
  omega

theorem toNat_saturatingSub (first second : BitVec width) :
    (saturatingSub first second).toNat = first.toNat - second.toNat := by
  have bound := first.isLt
  rw [saturatingSub, toNat_saturate]
  omega

end Axe

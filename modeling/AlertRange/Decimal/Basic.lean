import AlertRange.Binary64.Basic

namespace AlertRange

/-- The number `coefficient * 10 ^ exponent` with a sign. -/
structure Decimal where
  neg : Bool
  coefficient : Nat
  exponent : Int
  deriving DecidableEq

namespace Decimal

def unitsNum (d : Decimal) : Nat :=
  d.coefficient * Nat.pow 10 d.exponent.toNat * unitsPerOne

def unitsDen (d : Decimal) : Nat :=
  Nat.pow 10 (-d.exponent).toNat

def nearest (d : Decimal) : Binary64 :=
  .ofRatio d.neg d.unitsNum d.unitsDen

/-- The correctly rounded double. A number from `10^400` on and one below `10^-400` is not computed. -/
def toBinary64 (d : Decimal) : Binary64 :=
  if d.coefficient = 0 then .finite d.neg 0 fits_zero
  else if 400 ≤ d.exponent then .infinite d.neg
  else if d.exponent ≤ -(401 + d.coefficient.log2 : Int) then .finite d.neg 0 fits_zero
  else d.nearest

theorem unitsDen_pos (d : Decimal) : 0 < d.unitsDen :=
  Nat.pow_pos (by decide)

theorem nearest_of_zero {d : Decimal} (zero : d.coefficient = 0) :
    d.nearest = .finite d.neg 0 fits_zero := by
  apply Binary64.ofRatio_of_lt
  rw [unitsNum, zero]
  have := d.unitsDen_pos
  omega

theorem two_pow_le_ten_pow {m n : Nat} (h : m ≤ 3 * n) : Nat.pow 2 m ≤ Nat.pow 10 n := by
  simp only [Nat.pow_eq]
  calc 2 ^ m ≤ 2 ^ (3 * n) := Nat.pow_le_pow_right (by decide) h
    _ = 8 ^ n := Nat.pow_mul 2 3 n
    _ ≤ 10 ^ n := Nat.pow_le_pow_left (by decide) n

theorem nearest_of_large {d : Decimal} (nonzero : d.coefficient ≠ 0) (large : 400 ≤ d.exponent) :
    d.nearest = .infinite d.neg := by
  apply Binary64.ofRatio_of_unitLimit_le
  have den : d.unitsDen = 1 := by
    rw [unitsDen, show (-d.exponent).toNat = 0 by omega, Nat.pow_eq, Nat.pow_zero]
  have power : 2 ^ rangeBits ≤ 10 ^ d.exponent.toNat :=
    two_pow_le_ten_pow (by rw [rangeBits]; omega)
  have whole : 10 ^ d.exponent.toNat ≤ d.coefficient * 10 ^ d.exponent.toNat :=
    Nat.le_mul_of_pos_left _ (Nat.pos_of_ne_zero nonzero)
  rw [den, Nat.div_one, unitsNum, unitLimit, Nat.pow_eq, Nat.pow_add, unitsPerOne]
  exact Nat.mul_le_mul_right _ (Nat.le_trans power whole)

theorem nearest_of_small {d : Decimal} (small : d.exponent ≤ -(401 + d.coefficient.log2 : Int)) :
    d.nearest = .finite d.neg 0 fits_zero := by
  apply Binary64.ofRatio_of_lt
  have num : d.unitsNum = d.coefficient * unitsPerOne := by
    rw [unitsNum, show d.exponent.toNat = 0 by omega, Nat.pow_eq, Nat.pow_zero, Nat.mul_one]
  have size : d.coefficient < 2 ^ (d.coefficient.log2 + 1) := Nat.lt_log2_self
  have split : (-d.exponent).toNat = ((-d.exponent).toNat - d.coefficient.log2) + d.coefficient.log2 := by
    omega
  have unit : 2 ^ (2 + oneBits) ≤ 10 ^ ((-d.exponent).toNat - d.coefficient.log2) :=
    two_pow_le_ten_pow (by rw [oneBits]; omega)
  have den : 2 ^ (2 + oneBits) * 2 ^ d.coefficient.log2 ≤ d.unitsDen := by
    rw [unitsDen, split, Nat.pow_eq, Nat.pow_add 10]
    exact Nat.mul_le_mul unit (Nat.pow_le_pow_left (by decide : 2 ≤ 10) _)
  calc 2 * d.unitsNum = 2 * unitsPerOne * d.coefficient := by rw [num]; ac_rfl
    _ < 2 * unitsPerOne * 2 ^ (d.coefficient.log2 + 1) :=
      Nat.mul_lt_mul_of_pos_left size (Nat.mul_pos (by decide) unitsPerOne_pos)
    _ = 2 ^ (2 + oneBits) * 2 ^ d.coefficient.log2 := by
      rw [unitsPerOne, Nat.pow_eq, Nat.mul_comm 2, ← Nat.pow_succ, ← Nat.pow_add, ← Nat.pow_add]
      congr 1
      omega
    _ ≤ d.unitsDen := den

theorem toBinary64_eq_nearest (d : Decimal) : d.toBinary64 = d.nearest := by
  unfold toBinary64
  split
  · next zero => exact (nearest_of_zero zero).symm
  · next nonzero =>
    split
    · next large => exact (nearest_of_large nonzero large).symm
    · split
      · next small => exact (nearest_of_small small).symm
      · rfl

end Decimal

end AlertRange

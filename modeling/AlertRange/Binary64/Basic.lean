/-!
Double-precision numbers as exact values. A finite number is a sign and a count of units of
`2^-1074`, the smallest positive double, so that comparison is comparison of integers. Main
statements: rounding a ratio of units to 53 bits gives a count that 53 bits hold (`fits_roundUnits`).
-/

namespace AlertRange

@[irreducible] def oneBits : Nat := 1074

@[irreducible] def rangeBits : Nat := 1024

def unitsPerOne : Nat := Nat.pow 2 oneBits

def unitLimit : Nat := Nat.pow 2 (rangeBits + oneBits)

theorem unitsPerOne_pos : 0 < unitsPerOne :=
  Nat.two_pow_pos oneBits

theorem unitLimit_pos : 0 < unitLimit :=
  Nat.two_pow_pos _

/-- The distance of neighbouring doubles at a size, in units: doubles have 53 significant bits. -/
def spacing (units : Nat) : Nat :=
  Nat.pow 2 (units.log2 - 52)

def Fits (units : Nat) : Prop :=
  units < unitLimit ∧ spacing units ∣ units

instance (units : Nat) : Decidable (Fits units) :=
  inferInstanceAs (Decidable (_ ∧ _))

theorem fits_zero : Fits 0 :=
  ⟨unitLimit_pos, Nat.dvd_zero _⟩

inductive Binary64 where
  | nan
  | infinite (neg : Bool)
  | finite (neg : Bool) (units : Nat) (fits : Fits units)
  deriving DecidableEq

namespace Binary64

def zero : Binary64 := .finite false 0 fits_zero

def infinity : Binary64 := .infinite false

instance : Inhabited Binary64 := ⟨zero⟩

def isNaN : Binary64 → Bool
  | .nan => true
  | _ => false

def isInfinite : Binary64 → Bool
  | .infinite _ => true
  | _ => false

theorem isNaN_iff {x : Binary64} : x.isNaN = true ↔ x = .nan := by
  cases x <;> simp [isNaN]

def signed (neg : Bool) (n : Nat) : Int :=
  if neg then -n else n

/-- The value in units of `2^-1074`. Infinity stands at the limit, so that order is
order of positions. -/
def position : Binary64 → Int
  | .nan => 0
  | .infinite neg => signed neg unitLimit
  | .finite neg units _ => signed neg units

/-- NaN is neither below nor above anything; the two zeros are equal. -/
instance : LE Binary64 where
  le x y := x ≠ .nan ∧ y ≠ .nan ∧ x.position ≤ y.position

instance : LT Binary64 where
  lt x y := x ≠ .nan ∧ y ≠ .nan ∧ x.position < y.position

theorem le_def {x y : Binary64} : x ≤ y ↔ x ≠ .nan ∧ y ≠ .nan ∧ x.position ≤ y.position :=
  Iff.rfl

instance (x y : Binary64) : Decidable (x ≤ y) :=
  inferInstanceAs (Decidable (_ ∧ _ ∧ _))

instance (x y : Binary64) : Decidable (x < y) :=
  inferInstanceAs (Decidable (_ ∧ _ ∧ _))

/-- Equality of the numbers: the two zeros are the same, NaN is not the same as itself. -/
def same (x y : Binary64) : Bool :=
  !x.isNaN && !y.isNaN && x.position == y.position

theorem le_refl {x : Binary64} (number : x ≠ .nan) : x ≤ x :=
  ⟨number, number, Int.le_refl _⟩

theorem le_trans {x y z : Binary64} (xy : x ≤ y) (yz : y ≤ z) : x ≤ z :=
  ⟨xy.1, yz.2.1, Int.le_trans xy.2.2 yz.2.2⟩

theorem le_of_not_lt {x y : Binary64} (hx : x ≠ .nan) (hy : y ≠ .nan) (h : ¬ y < x) : x ≤ y := by
  refine ⟨hx, hy, ?_⟩
  by_cases below : y.position < x.position
  · exact absurd ⟨hy, hx, below⟩ h
  · omega

theorem lt_of_not_le {x y : Binary64} (hx : x ≠ .nan) (hy : y ≠ .nan) (h : ¬ x ≤ y) : y < x := by
  refine ⟨hy, hx, ?_⟩
  by_cases above : x.position ≤ y.position
  · exact absurd ⟨hx, hy, above⟩ h
  · omega

theorem not_le_of_lt {x y : Binary64} (below : y < x) : ¬ x ≤ y := by
  intro above
  have positions := below.2.2
  have reversed := above.2.2
  omega

def roundHalfEven (num den : Nat) : Nat :=
  let floor := num / den
  let rest := num % den
  if 2 * rest < den then floor
  else if den < 2 * rest then floor + 1
  else floor + floor % 2

def roundUnits (num den : Nat) : Nat :=
  roundHalfEven num (den * spacing (num / den)) * spacing (num / den)

theorem roundHalfEven_le (num den : Nat) : roundHalfEven num den ≤ num / den + 1 := by
  simp only [roundHalfEven]
  split
  · omega
  · split <;> omega

/-- Up to `2 ^ 53` steps of a power of two are a count that a double holds. -/
theorem spacing_dvd {m k : Nat} (bound : m ≤ Nat.pow 2 53) :
    spacing (m * Nat.pow 2 k) ∣ m * Nat.pow 2 k := by
  simp only [spacing, Nat.pow_eq] at bound ⊢
  by_cases full : m = 2 ^ 53
  · subst full
    rw [← Nat.pow_add, Nat.log2_two_pow]
    exact Nat.pow_dvd_pow 2 (by omega)
  · apply Nat.dvd_trans _ (Nat.dvd_mul_left (2 ^ k) m)
    apply Nat.pow_dvd_pow
    by_cases empty : m = 0
    · subst empty
      simp
    · have small : m * 2 ^ k < 2 ^ (53 + k) := by
        rw [Nat.pow_add]
        exact Nat.mul_lt_mul_of_pos_right (by omega) (Nat.two_pow_pos k)
      have positive : m * 2 ^ k ≠ 0 := Nat.mul_ne_zero empty (Nat.pos_iff_ne_zero.mp (Nat.two_pow_pos k))
      have log := (Nat.log2_lt positive).mpr small
      omega

theorem roundHalfEven_spacing_le (num den : Nat) :
    roundHalfEven num (den * spacing (num / den)) ≤ Nat.pow 2 53 := by
  have steps : num / (den * spacing (num / den)) < 2 ^ 53 := by
    rw [← Nat.div_div_eq_div_mul]
    apply Nat.div_lt_of_lt_mul
    have size := Nat.lt_log2_self (n := num / den)
    refine Nat.lt_of_lt_of_le size ?_
    rw [spacing, Nat.pow_eq, ← Nat.pow_add]
    exact Nat.pow_le_pow_right (by decide) (by omega)
  have := roundHalfEven_le num (den * spacing (num / den))
  exact Nat.le_trans this steps

theorem fits_roundUnits {num den : Nat} (h : roundUnits num den < unitLimit) :
    Fits (roundUnits num den) :=
  ⟨h, spacing_dvd (roundHalfEven_spacing_le num den)⟩

theorem div_le_roundHalfEven (num den : Nat) : num / den ≤ roundHalfEven num den := by
  simp only [roundHalfEven]
  split
  · omega
  · split <;> omega

theorem roundUnits_of_lt {num den : Nat} (h : 2 * num < den) : roundUnits num den = 0 := by
  have below : num / den = 0 := Nat.div_eq_of_lt (by omega)
  have step : spacing 0 = 1 := by decide
  rw [roundUnits, below, step, Nat.mul_one, Nat.mul_one, roundHalfEven, below,
    Nat.mod_eq_of_lt (by omega), if_pos h]

/-- Rounding does not lead below the power of two at or below a number. -/
theorem two_pow_log2_le_roundUnits {num den : Nat} (h : num / den ≠ 0) :
    Nat.pow 2 (num / den).log2 ≤ roundUnits num den := by
  have step : spacing (num / den) ∣ Nat.pow 2 (num / den).log2 :=
    Nat.pow_dvd_pow 2 (Nat.sub_le _ _)
  have floor : Nat.pow 2 (num / den).log2 / spacing (num / den) ≤
      roundHalfEven num (den * spacing (num / den)) := by
    refine Nat.le_trans ?_ (div_le_roundHalfEven _ _)
    rw [← Nat.div_div_eq_div_mul]
    exact Nat.div_le_div_right (Nat.log2_self_le h)
  calc Nat.pow 2 (num / den).log2
      = Nat.pow 2 (num / den).log2 / spacing (num / den) * spacing (num / den) :=
        (Nat.div_mul_cancel step).symm
    _ ≤ roundUnits num den := Nat.mul_le_mul_right _ floor

theorem unitLimit_le_roundUnits {num den : Nat} (h : unitLimit ≤ num / den) :
    unitLimit ≤ roundUnits num den := by
  have nonzero : num / den ≠ 0 := by
    have := unitLimit_pos
    omega
  have log : rangeBits + oneBits ≤ (num / den).log2 := by
    rw [Nat.le_log2 nonzero]
    exact h
  exact Nat.le_trans (Nat.pow_le_pow_right (by decide) log) (two_pow_log2_le_roundUnits nonzero)

/-- The double nearest to `num / den` units, a tie going to the even significand, and infinity from
half a step above the largest finite double on. -/
def ofRatio (neg : Bool) (num den : Nat) : Binary64 :=
  if h : roundUnits num den < unitLimit then .finite neg (roundUnits num den) (fits_roundUnits h)
  else .infinite neg

theorem ofRatio_of_lt {neg : Bool} {num den : Nat} (h : 2 * num < den) :
    ofRatio neg num den = .finite neg 0 fits_zero := by
  simp only [ofRatio, roundUnits_of_lt h, unitLimit_pos, dite_true]

theorem ofRatio_of_unitLimit_le {neg : Bool} {num den : Nat} (h : unitLimit ≤ num / den) :
    ofRatio neg num den = .infinite neg :=
  dif_neg (Nat.not_lt.mpr (unitLimit_le_roundUnits h))

def ofInt (n : Int) : Binary64 :=
  ofRatio (n < 0) (n.natAbs * unitsPerOne) 1

def toInt? : Binary64 → Option Int
  | .finite neg units _ => if units % unitsPerOne = 0 then some (signed neg (units / unitsPerOne)) else none
  | _ => none

end Binary64

end AlertRange

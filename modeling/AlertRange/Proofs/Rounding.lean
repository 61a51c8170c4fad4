import Mathlib
import AlertRange.Binary64.Basic

namespace AlertRange

open Binary64 (roundHalfEven roundUnits)

/-- A count of units with at most 53 significant bits. -/
def Precise (units : Nat) : Prop :=
  spacing units ∣ units

/-- The steps of the spacing in a count of units: its significand, if the count is precise. -/
def significand (units : Nat) : Nat :=
  units / spacing units

/-! ### The grid of precise counts -/

theorem spacing_eq (units : Nat) : spacing units = 2 ^ (units.log2 - 52) := rfl

theorem spacing_pos (units : Nat) : 0 < spacing units :=
  Nat.two_pow_pos _

theorem log2_le_log2 {m n : Nat} (le : m ≤ n) : m.log2 ≤ n.log2 := by
  rw [Nat.log2_eq_log_two, Nat.log2_eq_log_two]
  exact Nat.log_mono_right le

theorem spacing_dvd_spacing {m n : Nat} (le : m ≤ n) : spacing m ∣ spacing n := by
  have log := log2_le_log2 le
  exact Nat.pow_dvd_pow 2 (by omega)

theorem significand_mul_le (units : Nat) : significand units * spacing units ≤ units :=
  Nat.div_mul_le_self _ _

theorem lt_significand_succ_mul (units : Nat) : units < (significand units + 1) * spacing units := by
  have next := Nat.lt_div_mul_add (a := units) (spacing_pos units)
  rw [Nat.add_one_mul]
  exact next

theorem significand_lt (units : Nat) : significand units < 2 ^ 53 := by
  rw [significand, Nat.div_lt_iff_lt_mul (spacing_pos units), spacing_eq, ← Nat.pow_add]
  exact Nat.lt_of_lt_of_le Nat.lt_log2_self (Nat.pow_le_pow_right (by decide) (by omega))

/-- Only below `2 ^ 53` units, where the spacing is one unit, is a significand shorter than 53 bits. -/
theorem le_significand {units : Nat} (wide : 52 < units.log2) : 2 ^ 52 ≤ significand units := by
  have nonzero : units ≠ 0 := by
    rintro rfl
    simp at wide
  rw [significand, Nat.le_div_iff_mul_le (spacing_pos units), spacing_eq, ← Nat.pow_add,
    show 52 + (units.log2 - 52) = units.log2 by omega]
  exact Nat.log2_self_le nonzero

/-- No precise count lies strictly between a multiple of the spacing and the next one. -/
theorem precise_gap {m units : Nat} (precise : Precise m) :
    m ≤ significand units * spacing units ∨ (significand units + 1) * spacing units ≤ m := by
  rcases Nat.lt_or_ge units m with above | below
  · right
    obtain ⟨j, rfl⟩ := Nat.dvd_trans (spacing_dvd_spacing (Nat.le_of_lt above)) precise
    rw [Nat.mul_comm (spacing units)] at above ⊢
    apply Nat.mul_le_mul_right
    exact (Nat.div_lt_iff_lt_mul (spacing_pos units)).mpr above
  · left
    rcases Nat.lt_or_ge m.log2 units.log2 with smaller | same
    · by_cases wide : 52 < units.log2
      · have size : m < 2 ^ units.log2 :=
          Nat.lt_of_lt_of_le Nat.lt_log2_self (Nat.pow_le_pow_right (by decide) smaller)
        have power : 2 ^ units.log2 = 2 ^ 52 * spacing units := by
          rw [spacing_eq, ← Nat.pow_add, show 52 + (units.log2 - 52) = units.log2 by omega]
        have steps := Nat.mul_le_mul_right (spacing units) (le_significand wide)
        omega
      · have unit : spacing units = 1 := by
          rw [spacing_eq, show units.log2 - 52 = 0 by omega, Nat.pow_zero]
        rw [significand, unit, Nat.div_one, Nat.mul_one]
        exact below
    · have equal : spacing m = spacing units := by
        have log := log2_le_log2 below
        rw [spacing_eq, spacing_eq, Nat.le_antisymm log same]
      rw [Precise, equal] at precise
      obtain ⟨j, rfl⟩ := precise
      rw [Nat.mul_comm (spacing units)] at below ⊢
      apply Nat.mul_le_mul_right
      exact (Nat.le_div_iff_mul_le (spacing_pos units)).mpr below

theorem log2_mul_two_pow {m : Nat} (k : Nat) (nonzero : m ≠ 0) : (m * 2 ^ k).log2 = m.log2 + k := by
  have product : m * 2 ^ k ≠ 0 := Nat.mul_ne_zero nonzero (Nat.pos_iff_ne_zero.mp (Nat.two_pow_pos k))
  rw [Nat.log2_eq_iff product, Nat.pow_add, show m.log2 + k + 1 = m.log2 + 1 + k by omega, Nat.pow_add 2 _ k]
  exact ⟨Nat.mul_le_mul_right _ (Nat.log2_self_le nonzero),
    Nat.mul_lt_mul_of_pos_right Nat.lt_log2_self (Nat.two_pow_pos k)⟩

/-- A full significand says whether it is even, however the count of its steps is written. -/
theorem even_significand {m k : Nat} (bound : m ≤ 2 ^ 53) (full : k = 0 ∨ 2 ^ 52 ≤ m) :
    Even (significand (m * 2 ^ k)) ↔ Even m := by
  by_cases top : m = 2 ^ 53
  · subst top
    have step : spacing (2 ^ 53 * 2 ^ k) = 2 ^ (k + 1) := by
      rw [spacing_eq, ← Nat.pow_add, Nat.log2_two_pow, show 53 + k - 52 = k + 1 by omega]
    have value : significand (2 ^ 53 * 2 ^ k) = 2 ^ 52 := by
      rw [significand, step, ← Nat.pow_add, Nat.pow_div (by omega) (by decide),
        show 53 + k - (k + 1) = 52 by omega]
    rw [value]
    exact iff_of_true (by decide) (by decide)
  · have step : spacing (m * 2 ^ k) = 2 ^ k := by
      by_cases zero : m = 0
      · subst zero
        have small : k = 0 := by omega
        subst small
        decide
      · rw [spacing_eq, log2_mul_two_pow k zero]
        have below : m.log2 < 53 := (Nat.log2_lt zero).mpr (by omega)
        rcases full with rfl | full
        · rw [show m.log2 + 0 - 52 = 0 by omega]
        · have above : 52 ≤ m.log2 := (Nat.le_log2 zero).mpr full
          rw [show m.log2 + k - 52 = k by omega]
    rw [significand, step, Nat.mul_div_cancel _ (Nat.two_pow_pos k)]

theorem spacing_eq_one_or (units : Nat) : units.log2 - 52 = 0 ∨ 2 ^ 52 ≤ significand units := by
  rcases Nat.lt_or_ge 52 units.log2 with wide | narrow
  · exact Or.inr (le_significand wide)
  · exact Or.inl (by omega)

theorem even_significand_floor (units : Nat) :
    Even (significand (significand units * spacing units)) ↔ Even (significand units) :=
  even_significand (Nat.le_of_lt (significand_lt units)) (spacing_eq_one_or units)

theorem even_significand_ceil (units : Nat) :
    Even (significand ((significand units + 1) * spacing units)) ↔ Even (significand units + 1) := by
  have full := spacing_eq_one_or units
  exact even_significand (significand_lt units) (by omega)

/-! ### Nearest counts -/

/-- `units` is the precise count nearest to `q`; of two that are equally near, the one with the even
significand. -/
structure Nearest (q : ℚ) (units : Nat) : Prop where
  precise : Precise units
  closest : ∀ other, Precise other → |q - units| ≤ |q - other|
  even : ∀ other, Precise other → other ≠ units → |q - units| = |q - other| → Even (significand units)

/-- Neighbours on the grid of precise counts, with a number between them. -/
structure Between (q : ℚ) (lower upper : Nat) : Prop where
  lowerPrecise : Precise lower
  upperPrecise : Precise upper
  gap : ∀ m, Precise m → m ≤ lower ∨ upper ≤ m
  lower_le : (lower : ℚ) ≤ q
  lt_upper : q < upper

namespace Between

variable {q : ℚ} {lower upper : Nat}

theorem abs_lower (between : Between q lower upper) : |q - lower| = q - lower :=
  abs_of_nonneg (sub_nonneg.mpr between.lower_le)

theorem abs_upper (between : Between q lower upper) : |q - upper| = upper - q := by
  rw [abs_sub_comm]
  exact abs_of_pos (sub_pos.mpr between.lt_upper)

/-- Every precise count is as far as the neighbour on its side, and farther if it is another one. -/
theorem distance (between : Between q lower upper) {m : Nat} (precise : Precise m) :
    m = lower ∨ m = upper ∨ q - lower < |q - m| ∨ upper - q < |q - m| := by
  rcases between.gap m precise with below | above
  · rcases Nat.lt_or_eq_of_le below with less | equal
    · right; right; left
      have cast : (m : ℚ) < lower := by exact_mod_cast less
      exact lt_of_lt_of_le (by linarith) (le_abs_self _)
    · exact Or.inl equal
  · rcases Nat.lt_or_eq_of_le above with more | equal
    · right; right; right
      have cast : (upper : ℚ) < m := by exact_mod_cast more
      exact lt_of_lt_of_le (by linarith) (neg_le_abs _)
    · exact Or.inr (Or.inl equal.symm)

theorem nearest_lower (between : Between q lower upper) (closer : q - lower ≤ upper - q)
    (tie : q - lower = upper - q → Even (significand lower)) : Nearest q lower := by
  have low := between.abs_lower
  have high := between.abs_upper
  refine ⟨between.lowerPrecise, ?_, ?_⟩
  · intro other precise
    rcases between.distance precise with rfl | rfl | far | far <;> linarith
  · intro other precise different equal
    rcases between.distance precise with rfl | rfl | far | far
    · exact absurd rfl different
    · exact tie (by linarith)
    · linarith
    · linarith

theorem nearest_upper (between : Between q lower upper) (closer : upper - q ≤ q - lower)
    (tie : upper - q = q - lower → Even (significand upper)) : Nearest q upper := by
  have low := between.abs_lower
  have high := between.abs_upper
  refine ⟨between.upperPrecise, ?_, ?_⟩
  · intro other precise
    rcases between.distance precise with rfl | rfl | far | far <;> linarith
  · intro other precise different equal
    rcases between.distance precise with rfl | rfl | far | far
    · exact tie (by linarith)
    · exact absurd rfl different
    · linarith
    · linarith

theorem eq_or_eq (between : Between q lower upper) {units : Nat} (nearest : Nearest q units) :
    units = lower ∨ units = upper := by
  have low := nearest.closest lower between.lowerPrecise
  have high := nearest.closest upper between.upperPrecise
  rw [between.abs_lower] at low
  rw [between.abs_upper] at high
  rcases between.distance nearest.precise with equal | equal | far | far
  · exact Or.inl equal
  · exact Or.inr equal
  · linarith
  · linarith

end Between

/-- The neighbours of a number are the two multiples of the spacing around it. -/
theorem between_floor {q : ℚ} (nonneg : 0 ≤ q) :
    Between q (significand ⌊q⌋₊ * spacing ⌊q⌋₊) ((significand ⌊q⌋₊ + 1) * spacing ⌊q⌋₊) where
  lowerPrecise := Binary64.spacing_dvd (Nat.le_of_lt (significand_lt _))
  upperPrecise := Binary64.spacing_dvd (significand_lt _)
  gap := fun _ precise => precise_gap precise
  lower_le := le_trans (by exact_mod_cast significand_mul_le _) (Nat.floor_le nonneg)
  lt_upper := by
    have next : ((⌊q⌋₊ + 1 : Nat) : ℚ) ≤ (((significand ⌊q⌋₊ + 1) * spacing ⌊q⌋₊ : Nat) : ℚ) := by
      exact_mod_cast lt_significand_succ_mul _
    exact lt_of_lt_of_le (by exact_mod_cast Nat.lt_floor_add_one q) next

theorem Nearest.unique {q : ℚ} {a b : Nat} (nonneg : 0 ≤ q) (first : Nearest q a) (second : Nearest q b) :
    a = b := by
  have between := between_floor nonneg
  -- the two neighbours cannot both have an even significand
  have parity : Even (significand ((significand ⌊q⌋₊ + 1) * spacing ⌊q⌋₊)) ↔
      ¬ Even (significand (significand ⌊q⌋₊ * spacing ⌊q⌋₊)) := by
    rw [even_significand_floor, even_significand_ceil, Nat.even_add_one]
  by_contra different
  have equal : |q - a| = |q - b| :=
    le_antisymm (first.closest b second.precise) (second.closest a first.precise)
  have evenFirst := first.even b second.precise (Ne.symm different) equal
  have evenSecond := second.even a first.precise different equal.symm
  rcases between.eq_or_eq first with rfl | rfl <;> rcases between.eq_or_eq second with rfl | rfl
  · exact different rfl
  · exact parity.mp evenSecond evenFirst
  · exact parity.mp evenFirst evenSecond
  · exact different rfl

theorem Nearest.mono {p q : ℚ} {a b : Nat} (nonneg : 0 ≤ p) (first : Nearest p a) (second : Nearest q b)
    (le : p ≤ q) : a ≤ b := by
  by_contra above
  have cast : (b : ℚ) < a := by exact_mod_cast Nat.lt_of_not_le above
  have fromFirst : (a : ℚ) + b ≤ 2 * p := by
    have near := abs_le.mp (first.closest b second.precise)
    rcases abs_cases (p - b) with ⟨value, -⟩ | ⟨value, -⟩ <;> rw [value] at near <;> linarith
  have fromSecond : 2 * q ≤ a + b := by
    have near := abs_le.mp (second.closest a first.precise)
    rcases abs_cases (q - a) with ⟨value, -⟩ | ⟨value, -⟩ <;> rw [value] at near <;> linarith
  have equal : p = q := by linarith
  subst equal
  exact above (Nat.le_of_eq (first.unique nonneg second))

theorem nearest_of_precise {units : Nat} (precise : Precise units) : Nearest units units := by
  refine ⟨precise, ?_, ?_⟩
  · intro other _
    rw [sub_self, abs_zero]
    exact abs_nonneg _
  · intro other _ different equal
    rw [sub_self, abs_zero, eq_comm, abs_eq_zero, sub_eq_zero] at equal
    exact absurd (by exact_mod_cast equal.symm) different

/-! ### What rounding computes -/

theorem roundHalfEven_cases (num den : Nat) :
    (roundHalfEven num den = num / den ∧ 2 * num ≤ (2 * (num / den) + 1) * den ∧
      (2 * num = (2 * (num / den) + 1) * den → Even (num / den))) ∨
    (roundHalfEven num den = num / den + 1 ∧ (2 * (num / den) + 1) * den ≤ 2 * num ∧
      (2 * num = (2 * (num / den) + 1) * den → Even (num / den + 1))) := by
  have split := Nat.div_add_mod num den
  rw [Nat.mul_comm] at split
  have expand : (2 * (num / den) + 1) * den = 2 * (num / den * den) + den := by ring
  rw [expand]
  simp only [roundHalfEven, Nat.even_iff]
  split_ifs <;> omega

theorem nearest_roundUnits (num : Nat) {den : Nat} (positive : 0 < den) :
    Nearest (num / den) (roundUnits num den) := by
  have between := between_floor (q := num / den) (by positivity)
  rw [Nat.floor_div_eq_div] at between
  have evenFloor := even_significand_floor (num / den)
  have evenCeil := even_significand_ceil (num / den)
  have half := roundHalfEven_cases num (den * spacing (num / den))
  rw [← Nat.div_div_eq_div_mul, ← significand] at half
  rw [roundUnits]
  generalize significand (num / den) = k at *
  generalize spacing (num / den) = step at *
  have scale : (0 : ℚ) < den := by exact_mod_cast positive
  -- how far the ratio is from the middle of its neighbours
  have offset : (2 * num : ℚ) - (2 * k + 1) * (den * step) = (2 * (num / den) - (2 * k + 1) * step) * den := by
    field_simp
  have middle (equal : 2 * ((num : ℚ) / den) = (2 * k + 1) * step) : 2 * num = (2 * k + 1) * (den * step) := by
    rw [equal, sub_self, zero_mul, sub_eq_zero] at offset
    exact_mod_cast offset
  rcases half with ⟨value, side, even⟩ | ⟨value, side, even⟩ <;> rw [value]
  · have below : 2 * ((num : ℚ) / den) - (2 * k + 1) * step ≤ 0 := by
      have numerators : (2 * num : ℚ) ≤ (2 * k + 1) * (den * step) := by exact_mod_cast side
      apply nonpos_of_mul_nonpos_left _ scale
      linarith
    apply between.nearest_lower
    · push_cast
      linarith
    · intro tie
      push_cast at tie
      exact evenFloor.mpr (even (middle (by linarith)))
  · have above : 0 ≤ 2 * ((num : ℚ) / den) - (2 * k + 1) * step := by
      have numerators : ((2 * k + 1) * (den * step) : ℚ) ≤ 2 * num := by exact_mod_cast side
      apply nonneg_of_mul_nonneg_left _ scale
      linarith
    apply between.nearest_upper
    · push_cast
      linarith
    · intro tie
      push_cast at tie
      exact evenCeil.mpr (even (middle (by linarith)))

theorem nearest_iff {num den units : Nat} (positive : 0 < den) :
    Nearest (num / den) units ↔ units = roundUnits num den := by
  have rounded := nearest_roundUnits num positive
  constructor
  · intro nearest
    exact nearest.unique (by positivity) rounded
  · rintro rfl
    exact rounded

theorem roundUnits_mono {num den num' den' : Nat} (positive : 0 < den) (positive' : 0 < den')
    (le : (num : ℚ) / den ≤ num' / den') : roundUnits num den ≤ roundUnits num' den' :=
  (nearest_roundUnits _ positive).mono (by positivity) (nearest_roundUnits _ positive') le

end AlertRange

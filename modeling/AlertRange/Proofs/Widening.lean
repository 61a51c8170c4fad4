import AlertRange.Proofs.WholeChecks

namespace AlertRange

open Binary64 (roundUnits)

def largestUnits : Nat :=
  (2 ^ 53 - 1) * 2 ^ (971 + oneBits)

theorem unitLimit_eq : unitLimit = 2 ^ 53 * 2 ^ (971 + oneBits) := by
  rw [unitLimit, Nat.pow_eq, ← Nat.pow_add, rangeBits]
  congr 1
  omega

theorem spacing_largestUnits : spacing largestUnits = 2 ^ (971 + oneBits) := by
  have bits : Nat.log2 (2 ^ 53 - 1) = 52 := by decide +kernel
  rw [spacing_eq, largestUnits, log2_mul_two_pow _ (by decide), bits, Nat.add_sub_cancel_left]

theorem significand_largestUnits : significand largestUnits = 2 ^ 53 - 1 := by
  rw [significand, spacing_largestUnits, largestUnits, Nat.mul_div_cancel _ (Nat.two_pow_pos _)]

theorem precise_largestUnits : Precise largestUnits :=
  Binary64.spacing_dvd (by decide)

theorem precise_unitLimit : Precise unitLimit := by
  rw [unitLimit_eq]
  exact Binary64.spacing_dvd (Nat.le_refl _)

theorem even_unitLimit : Even (significand unitLimit) := by
  rw [unitLimit_eq, even_significand (Nat.le_refl _) (Or.inr (by decide))]
  decide

theorem largestUnits_lt : largestUnits < unitLimit := by
  rw [unitLimit_eq]
  exact Nat.mul_lt_mul_of_pos_right (by decide) (Nat.two_pow_pos _)

theorem between_largestUnits {q : ℚ} (above : largestUnits ≤ q) (below : q < unitLimit) :
    Between q largestUnits unitLimit where
  lowerPrecise := precise_largestUnits
  upperPrecise := precise_unitLimit
  gap := by
    intro m precise
    have gap : m ≤ significand largestUnits * spacing largestUnits ∨
        (significand largestUnits + 1) * spacing largestUnits ≤ m := precise_gap precise
    rwa [significand_largestUnits, spacing_largestUnits, ← largestUnits, Nat.sub_add_cancel (by decide),
      ← unitLimit_eq] at gap
  lower_le := above
  lt_upper := below

/-- A number is rounded beyond the largest double from the middle on: the tie goes to the even side. -/
theorem Nearest.unitLimit_le_iff {q : ℚ} {units : Nat} (nonneg : 0 ≤ q) (nearest : Nearest q units) :
    unitLimit ≤ units ↔ (largestUnits + unitLimit : ℚ) ≤ 2 * q := by
  have limit := largestUnits_lt
  have apart : (largestUnits : ℚ) < unitLimit := by exact_mod_cast limit
  rcases lt_or_ge q largestUnits with small | above
  · have le : units ≤ largestUnits := nearest.mono nonneg (nearest_of_precise precise_largestUnits) small.le
    exact iff_of_false (Nat.not_le.mpr (Nat.lt_of_le_of_lt le limit)) (by linarith)
  · rcases lt_or_ge q unitLimit with below | large
    · have between := between_largestUnits above below
      rcases lt_or_ge (2 * q) (largestUnits + unitLimit) with lower | upper
      · have lowest := between.nearest_lower (by linarith) (fun tie => by linarith)
        rw [nearest.unique nonneg lowest]
        exact iff_of_false (Nat.not_le.mpr limit) (by linarith)
      · have highest := between.nearest_upper (by linarith) (fun _ => even_unitLimit)
        rw [nearest.unique nonneg highest]
        exact iff_of_true (Nat.le_refl _) upper
    · have le := (nearest_of_precise precise_unitLimit).mono (by positivity) nearest large
      exact iff_of_true le (by linarith)

/-- The limit is as far above the middle as the largest double is below it. -/
theorem largestUnits_add_unitLimit :
    largestUnits + unitLimit + 2 * (2 ^ 970 * unitsPerOne) = 2 * (2 ^ 1024 * unitsPerOne) := by
  have step : 2 ^ (971 + oneBits) = 2 * (2 ^ 970 * unitsPerOne) := by
    have exponent : 971 + oneBits = 970 + oneBits + 1 := by omega
    rw [unitsPerOne, Nat.pow_eq, ← Nat.pow_add, ← Nat.pow_succ', exponent]
  have power : 2 ^ 1024 * unitsPerOne = 2 ^ 54 * (2 ^ 970 * unitsPerOne) := by
    rw [← Nat.mul_assoc, ← Nat.pow_add]
  rw [unitLimit_eq, largestUnits, step, power]
  generalize 2 ^ 970 * unitsPerOne = p
  omega

namespace Binary64

theorem isInfinite_ofInt_iff {n : Int} : (ofInt n).isInfinite = true ↔ (2 ^ 1024 - 2 ^ 970 : Int) ≤ |n| := by
  have rounded : Nearest (n.natAbs * unitsPerOne : Nat) (roundUnits (n.natAbs * unitsPerOne) 1) := by
    have nearest := nearest_roundUnits (n.natAbs * unitsPerOne) Nat.one_pos
    rwa [Nat.cast_one, div_one] at nearest
  have beyond : (ofInt n).isInfinite = true ↔ unitLimit ≤ roundUnits (n.natAbs * unitsPerOne) 1 := by
    rw [ofInt, ofRatio]
    split
    · next below => exact iff_of_false (by simp [isInfinite]) (Nat.not_le.mpr below)
    · next above => exact iff_of_true rfl (Nat.not_lt.mp above)
  have middle : (largestUnits + unitLimit : ℚ) ≤ 2 * (n.natAbs * unitsPerOne : Nat) ↔
    2 ^ 1024 ≤ n.natAbs + 2 ^ 970 := by
    rw [← Nat.mul_le_mul_right_iff unitsPerOne_pos, Nat.add_mul]
    have sum := largestUnits_add_unitLimit
    generalize 2 ^ 1024 * unitsPerOne = limit at *
    generalize 2 ^ 970 * unitsPerOne = half at *
    generalize n.natAbs * unitsPerOne = units at *
    norm_cast
    omega
  rw [beyond, rounded.unitLimit_le_iff (by positivity), middle, Int.abs_eq_natAbs, sub_le_iff_le_add]
  exact_mod_cast Iff.rfl

theorem ofInt_eq_infinite_iff {n : Int} {neg : Bool} :
    ofInt n = .infinite neg ↔ (2 ^ 1024 - 2 ^ 970 : Int) ≤ |n| ∧ neg = decide (n < 0) := by
  rw [← isInfinite_ofInt_iff]
  constructor
  · intro infinite
    have beyond : (ofInt n).isInfinite = true := by
      rw [infinite]
      rfl
    have signed := Value.ofInt_of_isInfinite beyond
    rw [infinite, Binary64.infinite.injEq] at signed
    exact ⟨beyond, signed⟩
  · rintro ⟨beyond, rfl⟩
    exact Value.ofInt_of_isInfinite beyond

theorem rounded_ofInt (n : Int) : Rounded (n < 0) (|(n : ℚ)| * unitsPerOne) (ofInt n) := by
  have rounded := Decimal.toBinary64_iff.mpr (Decimal.toBinary64_ofInt n).symm
  rwa [Decimal.magnitude_ofInt] at rounded

end Binary64

namespace Value

inductive Denotes : Value → WithBot (WithTop ℚ) → Prop
  | int (n : Int) : Denotes (.int n) (((n : ℚ) : WithTop ℚ) : WithBot (WithTop ℚ))
  | float {x q} (exact : x.Denotes q) : Denotes (.float x) q

theorem Denotes.exists_checkedNumber {value : Value} {q : WithBot (WithTop ℚ)} (denotes : value.Denotes q) :
    ∃ z, value.checkedNumber = .ok z ∧ z.Rounds q := by
  cases denotes with
  | int n => exact ⟨_, rfl, Binary64.rounds_ofInt n⟩
  | float exact => exact ⟨_, rfl, exact.rounds⟩

end Value

/-- What lies between two values that count as inside counts as inside too. -/
theorem Range.check_of_between {range : Range} {a x b : Value} {p q r : WithBot (WithTop ℚ)} (first : a.Denotes p)
    (second : x.Denotes q) (third : b.Denotes r) (above : p ≤ q) (below : q ≤ r)
    (inside : range.check a = .ok range.invert) (inside' : range.check b = .ok range.invert) :
    range.check x = .ok range.invert := by
  obtain ⟨low, numberA, roundsA⟩ := first.exists_checkedNumber
  obtain ⟨middle, numberX, roundsX⟩ := second.exists_checkedNumber
  obtain ⟨high, numberB, roundsB⟩ := third.exists_checkedNumber
  obtain ⟨lower, -⟩ := (check_eq_invert_iff numberA).mp inside
  obtain ⟨-, upper⟩ := (check_eq_invert_iff numberB).mp inside'
  apply (check_eq_invert_iff numberX).mpr
  exact ⟨Binary64.le_trans lower (roundsA.mono roundsX above),
    Binary64.le_trans (roundsX.mono roundsB below) upper⟩

/-- Whole numbers are rounded to doubles in their order, also among all other doubles: exactly up to `2 ^ 53`,
and to an infinity of their sign exactly from `2 ^ 1024 - 2 ^ 970` on. So the numbers that raise no alert of a
range that is not inverted have no gap: a whole number or double between two of them raises none. -/
theorem widen_keeps_order :
    (∀ m n : Int, m ≤ n → Value.widen m ≤ Value.widen n) ∧
    (∀ (n : Int) (x : Binary64), x ≠ .nan → ∃ q, x.Denotes q ∧
      ((((n : ℚ) : WithTop ℚ) : WithBot (WithTop ℚ)) ≤ q → Value.widen n ≤ x) ∧
      (q ≤ (((n : ℚ) : WithTop ℚ) : WithBot (WithTop ℚ)) → x ≤ Value.widen n)) ∧
    (∀ n : Int, (Value.int n).checkedNumber = .ok (Value.widen n) ∧
      Binary64.Rounded (n < 0) (|(n : ℚ)| * unitsPerOne) (Value.widen n) ∧
      (|n| ≤ 2 ^ 53 → (Value.widen n).Denotes (((n : ℚ) : WithTop ℚ) : WithBot (WithTop ℚ))) ∧
      ∀ neg, Value.widen n = .infinite neg ↔ (2 ^ 1024 - 2 ^ 970 : Int) ≤ |n| ∧ neg = decide (n < 0)) ∧
    ∀ range : Range, range.invert = false → ∀ {a x b : Value} {p q r : WithBot (WithTop ℚ)},
      a.Denotes p → x.Denotes q → b.Denotes r → p ≤ q → q ≤ r →
      range.check a = .ok false → range.check b = .ok false → range.check x = .ok false := by
  simp only [Value.widen_eq]
  refine ⟨?_, ?_, ?_, ?_⟩
  · intro m n le
    exact (Binary64.rounds_ofInt m).mono (Binary64.rounds_ofInt n) (by exact_mod_cast le)
  · intro n x number
    obtain ⟨q, exact⟩ := Binary64.exists_denotes number
    have rounded := Binary64.rounds_ofInt n
    exact ⟨q, exact, rounded.mono exact.rounds, exact.rounds.mono rounded⟩
  · intro n
    refine ⟨rfl, Binary64.rounded_ofInt n, ?_, fun neg => Binary64.ofInt_eq_infinite_iff⟩
    intro small
    apply Binary64.denotes_ofInt
    rw [Int.abs_eq_natAbs] at small
    exact_mod_cast small
  · intro range plain a x b p q r first second third above below quiet quiet'
    rw [← plain] at quiet quiet' ⊢
    exact Range.check_of_between first second third above below quiet quiet'

/-- A whole number beyond the upper bound raises no alert if its double is the bound, and then nothing below
it does. -/
theorem widen_keeps_order_beyond :
    let range : Range := ⟨.zero, .ofInt 9007199254740992, false, by decide +kernel⟩
    (range.contains? (.int 9007199254740993) = .ok false ∧ range.check (.int 0) = .ok false ∧
        range.check (.int 9007199254740993) = .ok false) ∧
      range.check (.float (.ofInt 9007199254740992)) = .ok false := by
  intro range
  have outside : range.containsInt 9007199254740993 = false := by decide +kernel
  have lowest : range.alerts (.ofInt 0) = false := by decide +kernel
  have highest : range.alerts (.ofInt 9007199254740993) = false := by decide +kernel
  have first : range.check (.int 0) = .ok false := congrArg Except.ok lowest
  have third : range.check (.int 9007199254740993) = .ok false := congrArg Except.ok highest
  have second := Value.Denotes.float (Binary64.denotes_ofInt (n := 9007199254740992) (by decide))
  have exact {m n : Int} (le : m ≤ n) :
      (((m : ℚ) : WithTop ℚ) : WithBot (WithTop ℚ)) ≤ (((n : ℚ) : WithTop ℚ) : WithBot (WithTop ℚ)) := by
    exact_mod_cast le
  refine ⟨⟨congrArg Except.ok outside, first, third⟩, ?_⟩
  exact widen_keeps_order.2.2.2 range rfl (.int 0) second (.int 9007199254740993) (exact (by decide))
    (exact (by decide)) first third

end AlertRange

import AlertRange.Proofs.FalseAlert
import AlertRange.Proofs.NumberText

namespace AlertRange

namespace Binary64

/-- The number that a double is. NaN is none. -/
inductive Denotes : Binary64 → WithBot (WithTop ℚ) → Prop
  | finite (neg : Bool) (units : Nat) (fits : Fits units) :
      Denotes (.finite neg units fits)
        ((((signed neg units : Int) / unitsPerOne : ℚ) : WithTop ℚ) : WithBot (WithTop ℚ))
  | infinite (neg : Bool) : Denotes (.infinite neg) (if neg then ⊥ else ((⊤ : WithTop ℚ) : WithBot (WithTop ℚ)))

theorem exists_denotes {x : Binary64} (number : x ≠ .nan) : ∃ q, x.Denotes q := by
  cases x with
  | nan => exact absurd rfl number
  | infinite neg => exact ⟨_, .infinite neg⟩
  | finite neg units fits => exact ⟨_, .finite neg units fits⟩

theorem unitsPerOne_cast_pos : (0 : ℚ) < unitsPerOne := by
  exact_mod_cast unitsPerOne_pos

theorem signed_bounds {units : Nat} (fits : Fits units) (neg : Bool) :
    -(unitLimit : Int) < signed neg units ∧ signed neg units < unitLimit := by
  have below := fits.1
  cases neg <;> simp only [signed, if_true, if_false, Bool.false_eq_true] <;> omega

variable {x y : Binary64} {q r : WithBot (WithTop ℚ)}

theorem Denotes.ne_nan (denotes : x.Denotes q) : x ≠ .nan := by
  cases denotes <;> exact nofun

theorem Denotes.le_iff (first : x.Denotes q) (second : y.Denotes r) : x ≤ y ↔ q ≤ r := by
  have numbers : x ≤ y ↔ x.position ≤ y.position := by
    simp [le_def, first.ne_nan, second.ne_nan]
  have limit := unitLimit_pos
  rw [numbers]
  cases first with
  | finite neg units fits =>
    have size := signed_bounds fits neg
    cases second with
    | finite neg' units' fits' =>
      rw [WithBot.coe_le_coe, WithTop.coe_le_coe, div_le_div_iff_of_pos_right unitsPerOne_cast_pos, Int.cast_le]
      rfl
    | infinite neg' => cases neg' <;> simp [position, signed] at size ⊢ <;> omega
  | infinite neg =>
    cases second with
    | finite neg' units' fits' =>
      have size := signed_bounds fits' neg'
      cases neg <;> simp [position, signed] at size ⊢ <;> omega
    | infinite neg' =>
      cases neg <;> cases neg' <;> simp [position, signed]
      omega

theorem Denotes.leInt_iff (denotes : x.Denotes q) (n : Int) :
    x.leInt n = true ↔ q ≤ (((n : ℚ) : WithTop ℚ) : WithBot (WithTop ℚ)) := by
  cases denotes with
  | finite neg units fits =>
    have compared : (Binary64.finite neg units fits).leInt n = decide (signed neg units ≤ n * unitsPerOne) := rfl
    rw [compared, decide_eq_true_iff, WithBot.coe_le_coe, WithTop.coe_le_coe, div_le_iff₀ unitsPerOne_cast_pos]
    exact_mod_cast Iff.rfl
  | infinite neg => cases neg <;> simp [leInt]

theorem Denotes.intLe_iff (denotes : x.Denotes q) (n : Int) :
    intLe n x = true ↔ (((n : ℚ) : WithTop ℚ) : WithBot (WithTop ℚ)) ≤ q := by
  cases denotes with
  | finite neg units fits =>
    have compared : intLe n (.finite neg units fits) = decide (n * unitsPerOne ≤ signed neg units) := rfl
    rw [compared, decide_eq_true_iff, WithBot.coe_le_coe, WithTop.coe_le_coe, le_div_iff₀ unitsPerOne_cast_pos]
    exact_mod_cast Iff.rfl
  | infinite neg => cases neg <;> simp [intLe]

theorem Denotes.rounds (denotes : x.Denotes q) : x.Rounds q := by
  cases denotes with
  | infinite neg => exact ⟨.infinite neg, .infinite neg, rfl⟩
  | finite neg units fits =>
    let d : Decimal := ⟨neg, units * Nat.pow 10 oneBits / unitsPerOne, -oneBits⟩
    have exact : d.magnitude * unitsPerOne = units := magnitude_of_places neg units (Nat.le_refl oneBits)
    have value : d.value = (signed neg units : Int) / unitsPerOne := by
      rw [Decimal.value, eq_div_iff unitsPerOne_cast_pos.ne', ite_mul, neg_mul, exact, signed]
      cases neg <;> simp [d]
    have rounded : Rounded d.neg (d.magnitude * unitsPerOne) (.finite neg units fits) := by
      rw [exact]
      exact .finite fits (nearest_of_precise fits.2)
    refine ⟨.decimal d, ?_, (Decimal.toBinary64_iff.mp rounded).symm⟩
    rw [← value]
    exact .decimal d

theorem signed_natAbs_mul (n : Int) (k : Nat) : signed (n < 0) (n.natAbs * k) = n * k := by
  by_cases negative : n < 0
  · have absolute : (n.natAbs : Int) = -n := by omega
    simp [signed, negative, absolute]
  · have absolute : (n.natAbs : Int) = n := by omega
    simp [signed, negative, absolute]

theorem roundUnits_of_precise {units : Nat} (precise : Precise units) : roundUnits units 1 = units := by
  have nearest := nearest_of_precise precise
  rw [← div_one (units : ℚ), ← Nat.cast_one (R := ℚ), nearest_iff Nat.one_pos] at nearest
  exact nearest.symm

theorem mul_unitsPerOne_lt {n : Nat} (small : n ≤ 2 ^ 53) : n * unitsPerOne < unitLimit := by
  have bits : 53 < rangeBits := by
    rw [rangeBits]
    decide
  have power : 2 ^ 53 < 2 ^ rangeBits := Nat.pow_lt_pow_right (by decide) bits
  rw [unitLimit, Nat.pow_eq, Nat.pow_add]
  exact Nat.mul_lt_mul_of_pos_right (Nat.lt_of_le_of_lt small power) (Nat.two_pow_pos oneBits)

theorem denotes_ofInt {n : Int} (small : n.natAbs ≤ 2 ^ 53) :
    (ofInt n).Denotes (((n : ℚ) : WithTop ℚ) : WithBot (WithTop ℚ)) := by
  have fits : Fits (n.natAbs * unitsPerOne) := ⟨mul_unitsPerOne_lt small, spacing_dvd small⟩
  have rounded : ofInt n = .finite (n < 0) (n.natAbs * unitsPerOne) fits := by
    simp only [ofInt, ofRatio, roundUnits_of_precise fits.2, fits.1, dite_true]
  have value : (n : ℚ) = (signed (n < 0) (n.natAbs * unitsPerOne) : Int) / unitsPerOne := by
    rw [signed_natAbs_mul, eq_div_iff unitsPerOne_cast_pos.ne']
    push_cast
    rfl
  rw [rounded, value]
  exact .finite _ _ _

end Binary64

end AlertRange

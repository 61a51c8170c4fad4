import AlertRange.Decimal.Numeral
import AlertRange.Proofs.Rounding

namespace AlertRange

namespace Binary64

/-- A double of the given sign that is nearest to `q` units. Where the nearest precise count is not below
`2 ^ 1024`, it is infinite. -/
inductive Rounded (neg : Bool) (q : ℚ) : Binary64 → Prop
  | finite {units : Nat} (fits : Fits units) (nearest : Nearest q units) : Rounded neg q (.finite neg units fits)
  | infinite {units : Nat} (beyond : unitLimit ≤ units) (nearest : Nearest q units) :
      Rounded neg q (.infinite neg)

theorem rounded_iff {neg : Bool} {num den : Nat} {x : Binary64} (positive : 0 < den) :
    Rounded neg (num / den) x ↔ x = ofRatio neg num den := by
  constructor
  · intro rounded
    cases rounded with
    | finite fits nearest =>
      obtain rfl := (nearest_iff positive).mp nearest
      rw [ofRatio, dif_pos fits.1]
    | infinite beyond nearest =>
      obtain rfl := (nearest_iff positive).mp nearest
      rw [ofRatio, dif_neg (Nat.not_lt.mpr beyond)]
  · rintro rfl
    have nearest := nearest_roundUnits num positive
    rw [ofRatio]
    split
    · exact .finite _ nearest
    · next beyond => exact .infinite (Nat.not_lt.mp beyond) nearest

theorem ofRatio_ne_nan (neg : Bool) (num den : Nat) : ofRatio neg num den ≠ .nan := by
  rw [ofRatio]
  split <;> simp

theorem position_ofRatio (neg : Bool) (num den : Nat) :
    (ofRatio neg num den).position = signed neg (min (roundUnits num den) unitLimit) := by
  rw [ofRatio]
  split
  · next below => rw [position, Nat.min_eq_left (Nat.le_of_lt below)]
  · next beyond => rw [position, Nat.min_eq_right (Nat.not_lt.mp beyond)]

theorem position_bounds (x : Binary64) : -(unitLimit : Int) ≤ x.position ∧ x.position ≤ unitLimit := by
  cases x with
  | nan => simp [position]
  | infinite neg => cases neg <;> simp [position, signed]
  | finite neg units fits =>
    have below := fits.1
    cases neg <;> simp [position, signed] <;> omega

/-! ### Equality of numbers -/

theorem same_iff {x y : Binary64} : x.same y = true ↔ x ≠ .nan ∧ y ≠ .nan ∧ x.position = y.position := by
  simp only [same, Bool.and_eq_true, Bool.not_eq_true', ← Bool.not_eq_true, isNaN_iff, beq_iff_eq, ne_eq,
    and_assoc]

theorem same_refl {x : Binary64} (number : x ≠ .nan) : x.same x = true :=
  same_iff.mpr ⟨number, number, rfl⟩

theorem same_of_le {x y : Binary64} (le : x ≤ y) (ge : y ≤ x) : x.same y = true :=
  same_iff.mpr ⟨le.1, le.2.1, Int.le_antisymm le.2.2 ge.2.2⟩

theorem le_of_same {a b x y : Binary64} (le : x ≤ y) (first : a.same x = true) (second : b.same y = true) :
    a ≤ b := by
  obtain ⟨numberA, -, lower⟩ := same_iff.mp first
  obtain ⟨numberB, -, upper⟩ := same_iff.mp second
  refine ⟨numberA, numberB, ?_⟩
  rw [lower, upper]
  exact le.2.2

theorem signed_inj {a b : Bool} {m n : Nat} (equal : signed a m = signed b n) : m = n ∧ (a = b ∨ m = 0) := by
  unfold signed at equal
  cases a <;> cases b <;> simp at equal ⊢ <;> omega

theorem same_cases {x y : Binary64} (equal : x.same y = true) :
    x = y ∨ ∃ a b, x = .finite a 0 fits_zero ∧ y = .finite b 0 fits_zero := by
  obtain ⟨numberX, numberY, position⟩ := same_iff.mp equal
  have limit := unitLimit_pos
  cases x with
  | nan => exact absurd rfl numberX
  | infinite a =>
    cases y with
    | nan => exact absurd rfl numberY
    | infinite b =>
      obtain ⟨-, sign | zero⟩ := signed_inj position
      · exact Or.inl (by rw [sign])
      · omega
    | finite b units fits =>
      have below := fits.1
      have size := (signed_inj position).1
      omega
  | finite a units fits =>
    have below := fits.1
    cases y with
    | nan => exact absurd rfl numberY
    | infinite b =>
      have size := (signed_inj position).1
      omega
    | finite b units' fits' =>
      obtain ⟨rfl, rfl | rfl⟩ := signed_inj position
      · exact Or.inl rfl
      · exact Or.inr ⟨a, b, rfl, rfl⟩

end Binary64

namespace Decimal

def magnitude (d : Decimal) : ℚ :=
  d.coefficient * (10 : ℚ) ^ d.exponent

def value (d : Decimal) : ℚ :=
  if d.neg then -d.magnitude else d.magnitude

theorem magnitude_nonneg (d : Decimal) : 0 ≤ d.magnitude := by
  unfold magnitude
  positivity

theorem unitsNum_div_unitsDen (d : Decimal) : (d.unitsNum : ℚ) / d.unitsDen = d.magnitude * unitsPerOne := by
  have power : (10 : ℚ) ^ d.exponent = 10 ^ d.exponent.toNat / 10 ^ (-d.exponent).toNat := by
    rcases le_total 0 d.exponent with nonneg | nonpos
    · rw [show (-d.exponent).toNat = 0 by omega, pow_zero, div_one, ← zpow_natCast, Int.toNat_of_nonneg nonneg]
    · rw [show d.exponent.toNat = 0 by omega, pow_zero, one_div, ← zpow_natCast, Int.toNat_of_nonneg (by omega),
        zpow_neg, inv_inv]
  simp only [unitsNum, unitsDen, magnitude, Nat.pow_eq, power]
  push_cast
  ring

theorem toBinary64_iff {d : Decimal} {x : Binary64} :
    Binary64.Rounded d.neg (d.magnitude * unitsPerOne) x ↔ x = d.toBinary64 := by
  rw [← unitsNum_div_unitsDen, toBinary64_eq_nearest, nearest]
  exact Binary64.rounded_iff d.unitsDen_pos

theorem toBinary64_ne_nan (d : Decimal) : d.toBinary64 ≠ .nan := by
  rw [toBinary64_eq_nearest]
  exact Binary64.ofRatio_ne_nan _ _ _

theorem roundUnits_of_magnitude_eq_zero {d : Decimal} (zero : d.magnitude = 0) :
    Binary64.roundUnits d.unitsNum d.unitsDen = 0 := by
  have nothing : d.coefficient = 0 := by
    rcases mul_eq_zero.mp zero with coefficient | power
    · exact_mod_cast coefficient
    · exact absurd power (zpow_ne_zero _ (by norm_num))
  apply Binary64.roundUnits_of_lt
  rw [unitsNum, nothing, Nat.zero_mul, Nat.zero_mul]
  exact d.unitsDen_pos

theorem toBinary64_mono {a b : Decimal} (le : a.value ≤ b.value) : a.toBinary64 ≤ b.toBinary64 := by
  refine ⟨a.toBinary64_ne_nan, b.toBinary64_ne_nan, ?_⟩
  rw [toBinary64_eq_nearest, toBinary64_eq_nearest, nearest, nearest, Binary64.position_ofRatio,
    Binary64.position_ofRatio]
  have scale : (0 : ℚ) ≤ unitsPerOne := by positivity
  have rounds {c d : Decimal} (le : c.magnitude ≤ d.magnitude) :
      Binary64.roundUnits c.unitsNum c.unitsDen ≤ Binary64.roundUnits d.unitsNum d.unitsDen := by
    apply roundUnits_mono c.unitsDen_pos d.unitsDen_pos
    rw [unitsNum_div_unitsDen, unitsNum_div_unitsDen]
    exact mul_le_mul_of_nonneg_right le scale
  have first := a.magnitude_nonneg
  have second := b.magnitude_nonneg
  unfold value at le
  cases negative : a.neg <;> cases negative' : b.neg <;>
    simp only [negative, negative', Binary64.signed, if_true, if_false, Bool.false_eq_true] at le ⊢
  · have units := rounds le
    omega
  · -- both decimals are zero
    rw [roundUnits_of_magnitude_eq_zero (d := a) (by linarith),
      roundUnits_of_magnitude_eq_zero (d := b) (by linarith)]
    simp
  · omega
  · have units := rounds (show b.magnitude ≤ a.magnitude by linarith)
    omega

def ofInt (n : Int) : Decimal :=
  ⟨n < 0, n.natAbs, 0⟩

theorem magnitude_ofInt (n : Int) : (ofInt n).magnitude = |(n : ℚ)| := by
  simp [ofInt, magnitude]

theorem value_ofInt (n : Int) : (ofInt n).value = n := by
  rw [value, magnitude_ofInt]
  by_cases negative : n < 0
  · have cast : (n : ℚ) < 0 := by exact_mod_cast negative
    simp [ofInt, negative, abs_of_neg cast]
  · have cast : (0 : ℚ) ≤ n := by exact_mod_cast Int.not_lt.mp negative
    simp [ofInt, negative, abs_of_nonneg cast]

theorem toBinary64_ofInt (n : Int) : (ofInt n).toBinary64 = .ofInt n := by
  rw [toBinary64_eq_nearest, nearest, Binary64.ofInt]
  simp [ofInt, unitsNum, unitsDen]

end Decimal

namespace Numeral

inductive RoundsTo : Numeral → Binary64 → Prop
  | decimal {d : Decimal} {x : Binary64} (rounded : Binary64.Rounded d.neg (d.magnitude * unitsPerOne) x) :
      RoundsTo (.decimal d) x
  | infinite (neg : Bool) : RoundsTo (.infinite neg) (.infinite neg)

theorem roundsTo_iff {n : Numeral} {x : Binary64} (number : n ≠ .nan) : n.RoundsTo x ↔ x = n.toBinary64 := by
  constructor
  · intro rounds
    cases rounds with
    | decimal rounded => exact Decimal.toBinary64_iff.mp rounded
    | infinite neg => rfl
  · rintro rfl
    cases n with
    | nan => exact absurd rfl number
    | infinite neg => exact .infinite neg
    | decimal d => exact .decimal (Decimal.toBinary64_iff.mpr rfl)

theorem RoundsTo.ne_nan {n : Numeral} {x : Binary64} (rounds : n.RoundsTo x) : x ≠ .nan := by
  cases rounds with
  | decimal rounded => cases rounded <;> exact nofun
  | infinite neg => exact nofun

/-- The exact number of a numeral, with an infinity at each end. NaN is no number. -/
inductive Denotes : Numeral → WithBot (WithTop ℚ) → Prop
  | decimal (d : Decimal) : Denotes (.decimal d) ((d.value : WithTop ℚ) : WithBot (WithTop ℚ))
  | infinite (neg : Bool) : Denotes (.infinite neg) (if neg then ⊥ else ((⊤ : WithTop ℚ) : WithBot (WithTop ℚ)))

theorem Denotes.toBinary64_ne_nan {n : Numeral} {x : WithBot (WithTop ℚ)} (denotes : n.Denotes x) :
    n.toBinary64 ≠ .nan := by
  cases denotes with
  | decimal d => exact d.toBinary64_ne_nan
  | infinite neg => exact nofun

theorem Denotes.toBinary64_mono {m n : Numeral} {x y : WithBot (WithTop ℚ)} (first : m.Denotes x)
    (second : n.Denotes y) (le : x ≤ y) : m.toBinary64 ≤ n.toBinary64 := by
  refine ⟨first.toBinary64_ne_nan, second.toBinary64_ne_nan, ?_⟩
  have low := Binary64.position_bounds m.toBinary64
  have high := Binary64.position_bounds n.toBinary64
  cases first with
  | decimal a =>
    cases second with
    | decimal b =>
      have values : a.value ≤ b.value := by simpa using le
      exact (Decimal.toBinary64_mono values).2.2
    | infinite neg =>
      cases neg with
      | true => simp at le
      | false => exact low.2
  | infinite neg =>
    cases neg with
    | true => exact high.1
    | false =>
      cases second with
      | decimal b => simp at le
      | infinite neg' =>
        cases neg' with
        | true => simp at le
        | false => exact Int.le_refl _

end Numeral

end AlertRange

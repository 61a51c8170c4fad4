import AlertRange.Proofs.NumberText
import AlertRange.Spec.Printer

namespace AlertRange

/-! ### Gaps between doubles -/

theorem significand_mul_spacing {units : Nat} (precise : Precise units) :
    significand units * spacing units = units :=
  Nat.div_mul_cancel precise

theorem lt_spacing_mul {units : Nat} (precise : Precise units) : units < 2 ^ 53 * spacing units := by
  have whole := significand_mul_spacing precise
  have steps := Nat.mul_lt_mul_of_pos_right (significand_lt units) (spacing_pos units)
  omega

theorem add_spacing_le {m units : Nat} (precise : Precise m) (precise' : Precise units) (less : m < units) :
    m + spacing m ≤ units := by
  have whole := significand_mul_spacing precise
  have gap : units ≤ significand m * spacing m ∨ (significand m + 1) * spacing m ≤ units := precise_gap precise'
  rcases gap with below | above
  · omega
  · rw [Nat.add_one_mul, whole] at above
    exact above

/-- Two precise counts differ by more than a part of `10 ^ 16` of either. -/
theorem lt_mul_abs_sub {m units : Nat} (precise : Precise m) (precise' : Precise units) (different : m ≠ units) :
    (units : ℚ) < 10 ^ 16 * |(units : ℚ) - m| := by
  rcases Nat.lt_or_gt_of_ne different with less | more
  · have gap := add_spacing_le precise precise' less
    have size := lt_spacing_mul precise
    have cast : (m : ℚ) < units := by exact_mod_cast less
    rw [abs_of_pos (by linarith)]
    have scaled : units < 10 ^ 16 * (units - m) := by omega
    have real : (units : ℚ) < 10 ^ 16 * ((units - m : Nat) : ℚ) := by exact_mod_cast scaled
    rwa [Nat.cast_sub (Nat.le_of_lt less)] at real
  · have gap := add_spacing_le precise' precise more
    have size := lt_spacing_mul precise'
    have cast : (units : ℚ) < m := by exact_mod_cast more
    rw [abs_sub_comm, abs_of_pos (by linarith)]
    have scaled : units < 10 ^ 16 * (m - units) := by omega
    have real : (units : ℚ) < 10 ^ 16 * ((m - units : Nat) : ℚ) := by exact_mod_cast scaled
    rwa [Nat.cast_sub (Nat.le_of_lt more)] at real

/-- A number that close to a precise count rounds to it. -/
theorem nearest_of_close {units : Nat} (precise : Precise units) {q : ℚ}
    (close : 2 * 10 ^ 16 * |q - units| ≤ units) : Nearest q units := by
  have farther {other : Nat} (precise' : Precise other) (different : other ≠ units) :
    |q - units| < |q - other| := by
    have apart := lt_mul_abs_sub precise' precise different
    have around : |(units : ℚ) - other| ≤ |q - units| + |q - other| := by
      rw [abs_sub_comm q units]
      exact abs_sub_le _ _ _
    linarith
  refine ⟨precise, ?_, ?_⟩
  · intro other precise'
    by_cases same : other = units
    · rw [same]
    · exact (farther precise' same).le
  · intro other precise' different equal
    exact absurd equal (farther precise' different).ne

namespace Binary64

/-! ### The exponent of the first digit -/

theorem toDigits_bounds {n : Nat} (nonzero : n ≠ 0) :
    10 ^ ((Nat.toDigits 10 n).length - 1) ≤ n ∧ n < 10 ^ (Nat.toDigits 10 n).length := by
  have some : 0 < (Nat.toDigits 10 n).length := Nat.length_toDigits_pos
  refine ⟨?_, (Nat.length_toDigits_le_iff (by decide) some).mp le_rfl⟩
  by_cases one : (Nat.toDigits 10 n).length = 1
  · rw [one]
    exact Nat.one_le_iff_ne_zero.mpr nonzero
  · by_contra small
    have shorter := (Nat.length_toDigits_le_iff (by decide) (by omega)).mpr (Nat.not_le.mp small)
    omega

/-- The exponent of the first digit shows in a count of digits, with so many zeros behind the number that no
digit is lost before the point. -/
theorem digits_bounds {units places : Nat} (nonzero : units ≠ 0) (enough : oneBits ≤ 3 * places) {digits : Nat}
    (counted : (Nat.toDigits 10 (units * Nat.pow 10 places / unitsPerOne)).length = digits) :
    (10 : ℚ) ^ ((digits : Int) - (places + 1)) * unitsPerOne ≤ units ∧
      (units : ℚ) < 10 ^ ((digits : Int) - places) * unitsPerOne := by
  have some : units * Nat.pow 10 places / unitsPerOne ≠ 0 := by
    apply Nat.pos_iff_ne_zero.mp
    apply Nat.div_pos _ unitsPerOne_pos
    exact (Decimal.two_pow_le_ten_pow enough).trans (Nat.le_mul_of_pos_left _ (Nat.pos_of_ne_zero nonzero))
  have length : 0 < digits := counted ▸ Nat.length_toDigits_pos
  obtain ⟨lower, upper⟩ := toDigits_bounds some
  rw [counted, Nat.pow_eq] at lower upper
  have below : 10 ^ (digits - 1) * unitsPerOne ≤ units * 10 ^ places :=
    (Nat.mul_le_mul_right _ lower).trans (Nat.div_mul_le_self _ _)
  have above : units * 10 ^ places < 10 ^ digits * unitsPerOne := Nat.lt_mul_of_div_lt upper unitsPerOne_pos
  have scale : (0 : ℚ) < 10 ^ places := by positivity
  constructor
  · have real : (10 : ℚ) ^ (digits - 1) * unitsPerOne ≤ units * 10 ^ places := by exact_mod_cast below
    have power : (10 : ℚ) ^ ((digits : Int) - (places + 1)) = 10 ^ (digits - 1) / 10 ^ places := by
      rw [← zpow_natCast, ← zpow_natCast, ← zpow_sub₀ (by norm_num)]
      congr 1
      omega
    rw [power, div_mul_eq_mul_div, div_le_iff₀ scale]
    exact real
  · have real : (units : ℚ) * 10 ^ places < 10 ^ digits * unitsPerOne := by exact_mod_cast above
    have power : (10 : ℚ) ^ ((digits : Int) - places) = 10 ^ digits / 10 ^ places := by
      rw [← zpow_natCast, ← zpow_natCast, ← zpow_sub₀ (by norm_num)]
    rw [power, div_mul_eq_mul_div, lt_div_iff₀ scale]
    exact real

theorem firstExponent_bounds {units : Nat} (nonzero : units ≠ 0) :
    (10 : ℚ) ^ firstExponent units * unitsPerOne ≤ units ∧
      (units : ℚ) < 10 ^ (firstExponent units + 1) * unitsPerOne := by
  have enough : oneBits ≤ 3 * 400 := by
    rw [oneBits]
    decide
  rw [firstExponent, sub_add, show (401 : Int) = (400 : Nat) + 1 by norm_num, add_sub_cancel_right]
  generalize 400 = places at enough ⊢
  exact digits_bounds nonzero enough rfl

/-! ### The decimals next to a double -/

def inSteps (units : Nat) (step : Int) : ℚ :=
  units / (10 ^ step * unitsPerOne)

theorem inSteps_mul (units : Nat) (step : Int) : inSteps units step * (10 ^ step * unitsPerOne) = units := by
  have one : (unitsPerOne : ℚ) ≠ 0 := by exact_mod_cast unitsPerOne_pos.ne'
  exact div_mul_cancel₀ _ (mul_ne_zero (zpow_ne_zero _ (by norm_num)) one)

theorem stepRatio_pos (units : Nat) (step : Int) : 0 < (stepRatio units step).2 :=
  Nat.mul_pos unitsPerOne_pos (Nat.pow_pos (by decide))

theorem stepRatio_eq (units : Nat) (step : Int) :
    ((stepRatio units step).1 : ℚ) / (stepRatio units step).2 = inSteps units step := by
  have power : (10 : ℚ) ^ step = 10 ^ step.toNat / 10 ^ (-step).toNat := by
    rw [← zpow_natCast, ← zpow_natCast, ← zpow_sub₀ (by norm_num)]
    congr 1
    omega
  have one : (unitsPerOne : ℚ) ≠ 0 := by exact_mod_cast unitsPerOne_pos.ne'
  rw [stepRatio, inSteps, power, Nat.pow_eq, Nat.pow_eq]
  push_cast
  field_simp

theorem abs_roundHalfEven_sub_le (num : Nat) {den : Nat} (positive : 0 < den) :
    2 * |(roundHalfEven num den : ℚ) - num / den| ≤ 1 := by
  have scale : (0 : ℚ) < den := by exact_mod_cast positive
  have lower : (num / den : Nat) ≤ (num : ℚ) / den := Nat.cast_div_le
  have upper : (num : ℚ) / den < (num / den : Nat) + 1 := by
    rw [div_lt_iff₀ scale]
    exact_mod_cast Nat.lt_mul_of_div_lt (Nat.lt_succ_self _) positive
  rcases roundHalfEven_cases num den with ⟨value, side, -⟩ | ⟨value, side, -⟩ <;> rw [value]
  · have half : 2 * ((num : ℚ) / den) ≤ 2 * (num / den : Nat) + 1 := by
      rw [← mul_div_assoc, div_le_iff₀ scale]
      exact_mod_cast side
    rw [abs_sub_comm, abs_of_nonneg (by linarith)]
    linarith
  · have half : 2 * (num / den : Nat) + 1 ≤ 2 * ((num : ℚ) / den) := by
      rw [← mul_div_assoc, le_div_iff₀ scale]
      exact_mod_cast side
    push_cast
    rw [abs_of_nonneg (by linarith)]
    linarith

theorem mem_neighbours {units : Nat} {step : Int} {d : Decimal} (member : d ∈ neighbours units step) :
    d.coefficient ≤ (stepRatio units step).1 / (stepRatio units step).2 + 1 ∧ d.exponent = step := by
  unfold neighbours at member
  simp only at member
  split at member
  all_goals
    rcases List.mem_pair.mp member with rfl | rfl
    all_goals exact ⟨by simp, rfl⟩

/-- The nearest decimal on a grid is one of the two. -/
theorem nearest_mem_neighbours (units : Nat) (step : Int) :
    ⟨false, roundHalfEven (stepRatio units step).1 (stepRatio units step).2, step⟩ ∈ neighbours units step := by
  have rounded := roundHalfEven_cases (stepRatio units step).1 (stepRatio units step).2
  unfold neighbours
  simp only
  split
  · next down => rw [down]; exact List.mem_cons_self
  · next up =>
    rcases rounded with ⟨down, -⟩ | ⟨value, -⟩
    · exact absurd down up
    · rw [value]
      exact List.mem_cons_self

theorem readsBack_of_nearest {units : Nat} (fits : Fits units) {d : Decimal}
    (nearest : Nearest (d.magnitude * unitsPerOne) units) : readsBack units d = true := by
  rw [readsBack, ← Decimal.toBinary64_iff.mp (.finite fits nearest)]
  exact beq_self_eq_true units

theorem inSteps_bounds {units : Nat} (nonzero : units ≠ 0) (digits : Nat) :
    (10 : ℚ) ^ ((digits : Int) - 1) ≤ inSteps units (firstExponent units - digits + 1) ∧
      inSteps units (firstExponent units - digits + 1) < 10 ^ digits := by
  obtain ⟨lower, upper⟩ := firstExponent_bounds nonzero
  have whole := inSteps_mul units (firstExponent units - digits + 1)
  have unit : (0 : ℚ) < 10 ^ (firstExponent units - digits + 1) * unitsPerOne :=
    mul_pos (by positivity) (by exact_mod_cast unitsPerOne_pos)
  constructor
  · apply le_of_mul_le_mul_right _ unit
    rw [whole, ← mul_assoc, ← zpow_add₀ (by norm_num),
      show (digits : Int) - 1 + (firstExponent units - digits + 1) = firstExponent units by ring]
    exact lower
  · apply lt_of_mul_lt_mul_right _ unit.le
    rw [whole, ← mul_assoc, ← zpow_natCast, ← zpow_add₀ (by norm_num),
      show (digits : Int) + (firstExponent units - digits + 1) = firstExponent units + 1 by ring]
    exact upper

/-- A count of seventeen digits that is right to half a step is right to a part of `2 * 10 ^ 16` of the number. -/
theorem magnitude_close {units coefficient : Nat} {step : Int} (sized : (10 : ℚ) ^ 16 ≤ inSteps units step)
    (error : 2 * |(coefficient : ℚ) - inSteps units step| ≤ 1) :
    2 * 10 ^ 16 * |(⟨false, coefficient, step⟩ : Decimal).magnitude * unitsPerOne - units| ≤ units := by
  have whole := inSteps_mul units step
  have unit : (0 : ℚ) < 10 ^ step * unitsPerOne := mul_pos (by positivity) (by exact_mod_cast unitsPerOne_pos)
  have factor : (⟨false, coefficient, step⟩ : Decimal).magnitude * unitsPerOne - units =
      (coefficient - inSteps units step) * (10 ^ step * unitsPerOne) := by
    rw [Decimal.magnitude, sub_mul, whole]
    ring
  rw [factor, abs_mul, abs_of_pos unit]
  generalize (10 : ℚ) ^ step * unitsPerOne = size at unit whole ⊢
  calc 2 * 10 ^ 16 * (|coefficient - inSteps units step| * size)
      = 10 ^ 16 * (2 * |coefficient - inSteps units step|) * size := by ring
    _ ≤ 10 ^ 16 * 1 * size := by gcongr
    _ ≤ inSteps units step * size := by
        rw [mul_one]
        gcongr
    _ = units := whole

/-- Seventeen digits are enough to tell a double. -/
theorem exists_readable? {units : Nat} (fits : Fits units) (nonzero : units ≠ 0) :
    ∃ d, readable? units 17 = some d := by
  have large := (inSteps_bounds nonzero 17).1
  have near := nearest_mem_neighbours units (firstExponent units - (17 : Nat) + 1)
  have error := abs_roundHalfEven_sub_le (stepRatio units (firstExponent units - (17 : Nat) + 1)).1
    (stepRatio_pos units (firstExponent units - (17 : Nat) + 1))
  rw [stepRatio_eq] at error
  unfold readable?
  generalize firstExponent units - (17 : Nat) + 1 = step at *
  have close := magnitude_close (by exact_mod_cast large) error
  have found : ((neighbours units step).find? (readsBack units)).isSome = true := by
    rw [List.find?_isSome]
    exact ⟨_, near, readsBack_of_nearest fits (nearest_of_close fits.2 close)⟩
  exact Option.isSome_iff_exists.mp found

/-- The shortest decimal has at most seventeen digits, or is a one behind seventeen zeros. -/
theorem shortest_bounds {units : Nat} (fits : Fits units) (nonzero : units ≠ 0) :
    (shortest units).coefficient ≤ 10 ^ 17 ∧ firstExponent units - 16 ≤ (shortest units).exponent ∧
      (shortest units).exponent ≤ firstExponent units := by
  have some : ((List.range' 1 17).findSome? (readable? units)).isSome = true := by
    rw [List.findSome?_isSome_iff]
    obtain ⟨d, found⟩ := exists_readable? fits nonzero
    exact ⟨17, by decide, by rw [found]; rfl⟩
  obtain ⟨d, found⟩ := Option.isSome_iff_exists.mp some
  obtain ⟨digits, few, near⟩ := List.exists_of_findSome?_eq_some found
  obtain ⟨coefficient, exponent⟩ := mem_neighbours (List.mem_of_find?_eq_some near)
  rw [shortest, if_neg nonzero, found, Option.getD_some, exponent]
  rw [List.mem_range'_1] at few
  refine ⟨?_, by omega, by omega⟩
  have small := (inSteps_bounds nonzero digits).2
  rw [← stepRatio_eq, div_lt_iff₀ (by exact_mod_cast stepRatio_pos units _)] at small
  generalize stepRatio units (firstExponent units - digits + 1) = ratio at coefficient small
  have floor : ratio.1 / ratio.2 < 10 ^ digits := Nat.div_lt_of_lt_mul (by rw [Nat.mul_comm]; exact_mod_cast small)
  have power : 10 ^ digits ≤ 10 ^ 17 := Nat.pow_le_pow_right (by decide) (by omega)
  omega

theorem firstExponent_range {units : Nat} (fits : Fits units) (nonzero : units ≠ 0) :
    -400 ≤ firstExponent units ∧ firstExponent units < 342 := by
  constructor
  · have some : 0 < (Nat.toDigits 10 (units * Nat.pow 10 400 / unitsPerOne)).length := Nat.length_toDigits_pos
    unfold firstExponent
    omega
  · have below {n : Nat} (large : 342 ≤ n) : firstExponent units < n := by
      have power : rangeBits ≤ 3 * n := by
        rw [rangeBits]
        omega
      have product : unitLimit = Nat.pow 2 rangeBits * unitsPerOne := Nat.pow_add 2 rangeBits oneBits
      have limit : units < 10 ^ n * unitsPerOne :=
        fits.1.trans_le (product ▸ Nat.mul_le_mul_right _ (Decimal.two_pow_le_ten_pow power))
      have real : (units : ℚ) < 10 ^ (n : Int) * unitsPerOne := by exact_mod_cast limit
      have power := lt_of_mul_lt_mul_right ((firstExponent_bounds nonzero).1.trans_lt real) (by positivity)
      exact (zpow_lt_zpow_iff_right₀ (by norm_num)).mp power
    exact below le_rfl

end Binary64

/-! ### Lengths of texts -/

theorem length_toDigits_le {n size : Nat} (some : 0 < size) (small : n < 10 ^ size) :
    (Nat.toDigits 10 n).length ≤ size :=
  (Nat.length_toDigits_le_iff (by decide) some).mpr small

namespace Layout

theorem length_digits_le {d : Decimal} (few : d.coefficient ≤ 10 ^ 17) : (digits d).1.length ≤ 18 ∧
    d.exponent ≤ (digits d).2 ∧ (digits d).2 ≤ d.exponent + 17 := by
  have all : (Nat.toDigits 10 d.coefficient).length ≤ 18 :=
    length_toDigits_le (by decide) (few.trans_lt (by decide))
  have some : 0 < (Nat.toDigits 10 d.coefficient).length := Nat.length_toDigits_pos
  have trimmed := (Text.trimEnd_isPrefix (· == '0') (Nat.toDigits 10 d.coefficient)).length_le
  simp only [digits]
  omega

theorem length_positional_le (ds : List Char) {exponent : Int} (low : -4 ≤ exponent) (high : exponent < 16) :
    (positional ds exponent).length ≤ max ds.length 16 + 5 := by
  unfold positional
  split
  · simp only [List.length_cons, List.length_append, List.length_replicate]
    omega
  · simp only
    split
    · simp only [List.length_append, List.rightpad, List.length_replicate, List.length_cons, List.length_nil]
      omega
    · simp only [List.length_append, List.length_cons, List.length_take, List.length_drop]
      omega

theorem length_scientific_le (ds : List Char) {exponent : Int} (size : exponent.natAbs < 1000) :
    (everyday.scientific ds exponent).length ≤ ds.length + 6 := by
  have power : (Nat.toDigits 10 exponent.natAbs).length ≤ 3 := length_toDigits_le (by decide) size
  have suffix : (everyday.exponentText exponent).length ≤ 4 := by
    simp only [exponentText, everyday, List.length_cons, List.length_leftpad]
    omega
  unfold scientific
  split
  all_goals
    simp only [List.length_append, List.length_cons]
    omega

theorem length_magnitude_le {units : Nat} (fits : Fits units) : (everyday.magnitude units).length ≤ 24 := by
  unfold magnitude
  split
  · decide
  · next nonzero =>
    obtain ⟨few, low, high⟩ := Binary64.shortest_bounds fits nonzero
    obtain ⟨least, most⟩ := Binary64.firstExponent_range fits nonzero
    obtain ⟨length, after, before⟩ := length_digits_le few
    simp only
    split
    · next full =>
      exact (length_positional_le _ full.1 full.2).trans (by omega)
    · exact (length_scientific_le _ (by omega)).trans (by omega)

end Layout

theorem length_intText_le {n size : Nat} (some : 0 < size) (small : n < 10 ^ size) :
    (intText n).length ≤ size := by
  rw [intText, String.length_ofList]
  exact length_toDigits_le some small

theorem length_intText_le_succ {n : Int} {size : Nat} (some : 0 < size) (small : n.natAbs < 10 ^ size) :
    (intText n).length ≤ size + 1 := by
  cases n with
  | ofNat k => exact (length_intText_le some small).trans (Nat.le_succ _)
  | negSucc k =>
    rw [intText, String.length_ofList]
    exact Nat.succ_le_succ (length_toDigits_le some small)

namespace Binary64

theorem length_text_le (x : Binary64) : x.text.length ≤ 25 := by
  cases x with
  | nan => decide
  | infinite neg => cases neg <;> decide
  | finite neg units fits =>
    have length := Layout.length_magnitude_le fits
    rw [text, String.length_ofList, Layout.finite]
    split
    · exact Nat.succ_le_succ length
    · exact length.trans (by decide)

theorem length_boundText_le (x : Binary64) : x.boundText.length ≤ 25 := by
  unfold boundText
  split
  · split
    · next small => exact (length_intText_le_succ (by decide) small).trans (by decide)
    · exact x.length_text_le
  · exact x.length_text_le

end Binary64

namespace Range

variable (range : Range)

theorem length_lowerText_le : range.lowerText.length ≤ 25 := by
  unfold lowerText
  split
  · decide
  · exact range.lower.length_boundText_le

theorem length_upperText_le : range.upperText.length ≤ 25 := by
  unfold upperText
  split
  · decide
  · exact range.upper.length_boundText_le

theorem length_spec_le : range.spec.length ≤ 52 := by
  have lower := range.length_lowerText_le
  have upper := range.length_upperText_le
  have colon : ":".length = 1 := by decide
  have mark : (if range.invert then "@" else "").length ≤ 1 := by split <;> decide
  have start : (if range.lower.same .zero then "" else range.lowerText ++ ":").length ≤ 26 := by
    split
    · decide
    · rw [String.length_append]
      omega
  simp only [spec, String.length_append]
  omega

theorem length_violation_le : range.violation.length ≤ 66 := by
  have lower := range.length_lowerText_le
  have upper := range.length_upperText_le
  have side : (if range.invert then "inside" else "outside").length ≤ 7 := by split <;> decide
  have between : " range ".length = 7 := by decide
  have colon : ":".length = 1 := by decide
  simp only [violation, String.length_append]
  omega

end Range

end AlertRange

import AlertRange.Binary64.Layout
import AlertRange.Proofs.ExactNumber
import AlertRange.Proofs.NumeralGrammar

namespace AlertRange

namespace Numeral

/-! ### Rows of digits -/

theorem ofDigits_concat (ds : List Nat) (d : Nat) : ofDigits (ds ++ [d]) = 10 * ofDigits ds + d := by
  simp [ofDigits]

theorem ofDigits_append (ds es : List Nat) :
    ofDigits (ds ++ es) = ofDigits ds * 10 ^ es.length + ofDigits es := by
  induction es using List.reverseRecOn with
  | nil => simp [ofDigits]
  | append_singleton es e ih =>
    rw [← List.append_assoc, ofDigits_concat, ofDigits_concat, ih, List.length_append, List.length_singleton,
      pow_succ]
    ring

theorem ofDigits_replicate_zero (n : Nat) : ofDigits (List.replicate n 0) = 0 := by
  induction n with
  | zero => rfl
  | succ n ih => rw [List.replicate_succ', ofDigits_concat, ih]

theorem ofDigits_zeros_append (n : Nat) (ds : List Nat) : ofDigits (List.replicate n 0 ++ ds) = ofDigits ds := by
  rw [ofDigits_append, ofDigits_replicate_zero, Nat.zero_mul, Nat.zero_add]

theorem exists_toDigits (n : Nat) :
    ∃ ds, Nat.toDigits 10 n = ds.map Nat.digitChar ∧ (∀ d ∈ ds, d < 10) ∧ ds ≠ [] ∧ ofDigits ds = n := by
  induction n using Nat.strongRecOn with
  | ind n ih =>
    rw [Nat.toDigits_eq_if (by decide)]
    by_cases small : n < 10
    · rw [if_pos small]
      exact ⟨[n], rfl, by simpa using small, by simp, by simp [ofDigits]⟩
    · obtain ⟨ds, text, digits, -, value⟩ := ih (n / 10) (by omega)
      rw [if_neg small, text]
      refine ⟨ds ++ [n % 10], by simp, ?_, by simp, ?_⟩
      · intro d member
        rcases List.mem_append.mp member with front | last
        · exact digits d front
        · rw [List.mem_singleton.mp last]
          exact Nat.mod_lt n (by decide)
      · rw [ofDigits_concat, value]
        exact Nat.div_add_mod n 10

/-- A positive number is written without a zero at its head. -/
theorem head?_toDigits {n : Nat} (positive : n ≠ 0) : (Nat.toDigits 10 n).head? ≠ some '0' := by
  induction n using Nat.strongRecOn with
  | ind n ih =>
    rw [Nat.toDigits_eq_if (by decide)]
    by_cases small : n < 10
    · have digits : ∀ d < 10, d ≠ 0 → [d.digitChar].head? ≠ some '0' := by decide
      rw [if_pos small]
      exact digits n small positive
    · have some : Nat.toDigits 10 (n / 10) ≠ [] := List.ne_nil_of_length_pos Nat.length_toDigits_pos
      rw [if_neg small, List.head?_append_of_ne_nil _ some]
      exact ih (n / 10) (by omega) (by omega)

theorem exists_trimmed_toDigits {n : Nat} (positive : n ≠ 0) :
    ∃ ds zeros, Text.trimEnd (· == '0') (Nat.toDigits 10 n) = ds.map Nat.digitChar ∧ (∀ d ∈ ds, d < 10) ∧
      ds ≠ [] ∧ (Nat.toDigits 10 n).length = ds.length + zeros ∧ n = ofDigits ds * 10 ^ zeros := by
  obtain ⟨row, text, digits, -, value⟩ := exists_toDigits n
  have split := Text.trimEnd_append (· == '0') (Nat.toDigits 10 n)
  rw [text] at split ⊢
  obtain ⟨ds, rest, rfl, front, back⟩ := List.map_eq_append_iff.mp split.symm
  have zeros : rest = List.replicate rest.length 0 := by
    rw [List.eq_replicate_iff]
    refine ⟨rfl, ?_⟩
    intro d member
    have written : d.digitChar ∈ rest.map Nat.digitChar := List.mem_map_of_mem member
    rw [back, List.mem_reverse] at written
    simpa using List.mem_takeWhile_imp written
  have scaled : n = ofDigits ds * 10 ^ rest.length := by
    rw [← value, zeros, ofDigits_append, ofDigits_replicate_zero, Nat.add_zero, List.length_replicate]
  refine ⟨ds, rest.length, front.symm, fun d member => digits d (List.mem_append_left _ member), ?_,
    by simp, scaled⟩
  rintro rfl
  rw [scaled, show ofDigits [] = 0 from rfl, Nat.zero_mul] at positive
  exact positive rfl

namespace Dialect

variable {dialect : Dialect}

theorem Regular.digits (regular : dialect.Regular) {ds : List Nat} (digits : ∀ d ∈ ds, d < 10) :
    dialect.Digits (ds.map Nat.digitChar) ds := by
  induction ds with
  | nil => exact .nil
  | cons d ds ih =>
    have first := regular.ascii d (digits d List.mem_cons_self)
    exact .cons first (ih fun e member => digits e (List.mem_cons_of_mem d member))

def Spells (dialect : Dialect) (cs : List Char) (neg : Bool) (q : ℚ) : Prop :=
  ∃ d : Decimal, dialect.Number cs (.decimal d) ∧ d.neg = neg ∧ d.magnitude = q

/-- A mantissa and a power of ten spell their product. -/
theorem spells_of_mantissa {sign body power : List Char} {neg : Bool} {ds : List Nat} {places : Nat} {p : Int}
    (signed : Sign sign neg) (mantissa : dialect.Mantissa body ds places) (scaled : dialect.Power power p) :
    dialect.Spells (sign ++ (body ++ power)) neg (ofDigits ds * 10 ^ (p - places)) :=
  ⟨_, .decimal signed mantissa scaled, rfl, rfl⟩

/-- Digits around a point spell the number without the point, scaled by the places after it. -/
theorem spells_point (regular : dialect.Regular) {sign : List Char} {neg : Bool} {whole places : List Nat}
    (signed : Sign sign neg) (digits : ∀ d ∈ whole ++ places, d < 10) (some : whole ≠ []) {power : List Char}
    {p : Int} (scaled : dialect.Power power p) :
    dialect.Spells (sign ++ ((whole.map Nat.digitChar ++ '.' :: places.map Nat.digitChar) ++ power)) neg
      (ofDigits (whole ++ places) * 10 ^ (p - places.length)) := by
  have before := regular.digits fun d member => digits d (List.mem_append_left places member)
  have after := regular.digits fun d member => digits d (List.mem_append_right whole member)
  exact spells_of_mantissa signed (.point before some after) scaled

end Dialect

end Numeral

namespace Binary64

/-! ### Shortest decimals -/

theorem nearest_of_readsBack {units : Nat} {d : Decimal} (reads : readsBack units d = true) :
    Nearest (d.magnitude * unitsPerOne) units := by
  have rounded := Decimal.toBinary64_iff.mpr (rfl : d.toBinary64 = d.toBinary64)
  unfold readsBack at reads
  generalize d.toBinary64 = x at rounded reads
  cases rounded with
  | finite fits nearest =>
    rw [← beq_iff_eq.mp reads]
    exact nearest
  | infinite beyond nearest => cases reads

/-- With `oneBits` places after the point, every count of units is a decimal. -/
theorem magnitude_of_places (neg : Bool) (units : Nat) {places : Nat} (enough : oneBits ≤ places) :
    (⟨neg, units * Nat.pow 10 places / unitsPerOne, -places⟩ : Decimal).magnitude * unitsPerOne = units := by
  have whole : unitsPerOne ∣ units * 10 ^ places := by
    apply Dvd.dvd.mul_left
    exact (pow_dvd_pow 2 enough).trans (pow_dvd_pow_of_dvd (by decide) places)
  have nonzero : (unitsPerOne : ℚ) ≠ 0 := by exact_mod_cast unitsPerOne_pos.ne'
  have scale : (10 : ℚ) ^ places * 10 ^ (-(places : Int)) = 1 := by
    rw [zpow_neg, zpow_natCast, mul_inv_cancel₀ (by positivity)]
  rw [Decimal.magnitude, Nat.pow_eq, Nat.cast_div whole nonzero]
  push_cast
  calc (units * 10 ^ places / unitsPerOne : ℚ) * 10 ^ (-(places : Int)) * unitsPerOne
      = units * (10 ^ places * 10 ^ (-(places : Int))) * (unitsPerOne / unitsPerOne) := by ring
    _ = units := by rw [scale, div_self nonzero, mul_one, mul_one]

/-- The shortest decimal of a count of units rounds to it. -/
theorem nearest_shortest {units : Nat} (fits : Fits units) :
    Nearest ((shortest units).magnitude * unitsPerOne) units := by
  unfold shortest
  split
  · next zero =>
    subst zero
    have exact : (⟨false, 0, 0⟩ : Decimal).magnitude * unitsPerOne = (0 : Nat) := by simp [Decimal.magnitude]
    rw [exact]
    exact nearest_of_precise fits.2
  · cases found : (List.range' 1 17).findSome? (readable? units) with
    | some d =>
      obtain ⟨digits, -, near⟩ := List.exists_of_findSome?_eq_some found
      exact nearest_of_readsBack (List.find?_some near)
    | none =>
      have enough : oneBits ≤ 1074 := by rw [oneBits]
      rw [Option.getD_none, show (-1074 : Int) = -((1074 : Nat) : Int) from rfl]
      generalize 1074 = places at enough ⊢
      rw [magnitude_of_places false units enough]
      exact nearest_of_precise fits.2

theorem coefficient_shortest {units : Nat} (fits : Fits units) (nonzero : units ≠ 0) :
    (shortest units).coefficient ≠ 0 := by
  have near := nearest_shortest fits
  have nothing : Nearest 0 0 := by exact_mod_cast nearest_of_precise fits_zero.2
  intro zero
  rw [Decimal.magnitude, zero, Nat.cast_zero, zero_mul, zero_mul] at near
  exact nonzero (near.unique le_rfl nothing)

end Binary64

namespace Layout

open Numeral (Dialect Sign ofDigits)

/-! ### Digits written out -/

theorem positional_split {ds : List Nat} (digits : ∀ d ∈ ds, d < 10) (exponent : Int) :
    ∃ whole places, positional (ds.map Nat.digitChar) exponent =
        whole.map Nat.digitChar ++ '.' :: places.map Nat.digitChar ∧
      (∀ d ∈ whole ++ places, d < 10) ∧ whole ≠ [] ∧
      (ofDigits (whole ++ places) : ℚ) * 10 ^ (-(places.length : Int)) =
        ofDigits ds * 10 ^ (exponent + 1 - ds.length) ∧
      (ds ≠ [] → places ≠ [] ∧ (whole = [0] ∨ whole.head? = ds.head?)) := by
  unfold positional
  split
  -- a point in front of all digits, behind them and zeros, or between them
  · next small =>
    refine ⟨[0], List.replicate (-exponent - 1).toNat 0 ++ ds, by simp, by grind, by simp, ?_,
      fun given => ⟨by simp [given], Or.inl rfl⟩⟩
    rw [← List.append_assoc, List.singleton_append, ← List.replicate_succ, Numeral.ofDigits_zeros_append,
      List.length_append, List.length_replicate]
    congr 2
    omega
  · next large =>
    simp only [List.length_map]
    split
    · next short =>
      have zero : Nat.digitChar 0 = '0' := rfl
      have some : ds ++ List.replicate (exponent.toNat + 1 - ds.length) 0 ≠ [] := by
        rw [← List.length_pos_iff, List.length_append, List.length_replicate]
        omega
      refine ⟨_, [0], by simp [List.rightpad, zero], by grind, some, ?_, fun given => ⟨by simp, Or.inr ?_⟩⟩
      swap
      · rw [List.head?_append_of_ne_nil _ given]
      have scale : exponent + 1 - ds.length = (exponent.toNat + 1 - ds.length : Nat) := by omega
      rw [List.append_assoc, ← List.replicate_succ', Numeral.ofDigits_append, Numeral.ofDigits_replicate_zero,
        List.length_replicate, scale, List.length_singleton, zpow_natCast]
      push_cast
      ring
    · next long =>
      have some : ds.take (exponent.toNat + 1) ≠ [] := by
        rw [← List.length_pos_iff, List.length_take]
        omega
      refine ⟨_, ds.drop (exponent.toNat + 1), by simp, by simpa using digits, some, ?_, fun _ => ⟨?_, Or.inr ?_⟩⟩
      · rw [List.take_append_drop, List.length_drop]
        congr 2
        omega
      · rw [← List.length_pos_iff, List.length_drop]
        omega
      · rw [List.head?_take, if_neg (by omega)]

variable {dialect : Dialect} {sign : List Char} {neg : Bool} {ds : List Nat}

theorem spells_positional (regular : dialect.Regular) (signed : Sign sign neg) (digits : ∀ d ∈ ds, d < 10)
    (exponent : Int) :
    dialect.Spells (sign ++ positional (ds.map Nat.digitChar) exponent) neg
      (ofDigits ds * 10 ^ (exponent + 1 - ds.length)) := by
  obtain ⟨whole, places, text, digits, some, value, -⟩ := positional_split digits exponent
  have spelled := Dialect.spells_point regular signed digits some .absent
  rw [text, ← value]
  rwa [List.append_nil, zero_sub] at spelled

theorem power_exponentText (regular : dialect.Regular) (layout : Layout) (exponent : Int) :
    dialect.Power ('e' :: layout.exponentText exponent) exponent := by
  obtain ⟨ds, text, digits, some, value⟩ := Numeral.exists_toDigits exponent.natAbs
  unfold exponentText
  rw [text, List.leftpad, List.length_map]
  set zeros := List.replicate (layout.exponentDigits - ds.length) 0 with padding
  have row : dialect.Digits ((zeros ++ ds).map Nat.digitChar) (zeros ++ ds) := regular.digits (by grind)
  have padded : List.replicate (layout.exponentDigits - ds.length) '0' ++ ds.map Nat.digitChar =
      (zeros ++ ds).map Nat.digitChar := by simp [padding]
  have power {s : List Char} {neg : Bool} (signed : Sign s neg) :
      dialect.Power ('e' :: (s ++ (zeros ++ ds).map Nat.digitChar)) (Binary64.signed neg exponent.natAbs) := by
    have given := Dialect.Power.given (Or.inl rfl) signed row (by simp [some])
    rwa [padding, Numeral.ofDigits_zeros_append, value] at given
  rw [padded]
  split
  · next negative =>
    have spelled := power .minus
    rwa [Binary64.signed, if_pos rfl, Int.ofNat_natAbs_of_nonpos (by omega), neg_neg] at spelled
  · next nonnegative =>
    have spelled := power .plus
    rwa [Binary64.signed, if_neg (by simp), Int.natAbs_of_nonneg (by omega)] at spelled

theorem spells_scientific (regular : dialect.Regular) (layout : Layout) (signed : Sign sign neg)
    (digits : ∀ d ∈ ds, d < 10) (some : ds ≠ []) (exponent : Int) :
    dialect.Spells (sign ++ layout.scientific (ds.map Nat.digitChar) exponent) neg
      (ofDigits ds * 10 ^ (exponent + 1 - ds.length)) := by
  have power := power_exponentText regular layout exponent
  match ds with
  | [] => exact absurd rfl some
  | [d] =>
    have spelled := Dialect.spells_of_mantissa signed (.whole (regular.digits digits) some) power
    simpa [scientific] using spelled
  | first :: second :: rest =>
    have around : ∀ d ∈ [first] ++ second :: rest, d < 10 := digits
    have spelled := Dialect.spells_point regular signed around (by simp) power
    have scale : exponent + 1 - ((first :: second :: rest).length : Int) = exponent - (second :: rest).length := by
      rw [List.length_cons]
      omega
    rw [scale]
    exact spelled

/-! ### The text of a double -/

/-- In every layout, the text of a double spells a number that rounds to it. -/
theorem spells_magnitude (regular : dialect.Regular) (layout : Layout) (signed : Sign sign neg) {units : Nat}
    (fits : Fits units) :
    ∃ q, dialect.Spells (sign ++ layout.magnitude units) neg q ∧ Nearest (q * unitsPerOne) units := by
  have near := Binary64.nearest_shortest fits
  have nothing : Nearest 0 0 := by exact_mod_cast nearest_of_precise fits_zero.2
  unfold magnitude
  split
  · next zero =>
    have digits : ∀ d ∈ [0], d < 10 := by simp
    have spelled := spells_positional regular signed digits 0
    refine ⟨_, spelled, ?_⟩
    rwa [zero, show ofDigits [0] = 0 from rfl, Nat.cast_zero, zero_mul, zero_mul]
  · next nonzero =>
    have positive := Binary64.coefficient_shortest fits nonzero
    obtain ⟨ds, zeros, text, digits, some, length, value⟩ := Numeral.exists_trimmed_toDigits positive
    generalize Binary64.shortest units = d at *
    have magnitude : (ofDigits ds : ℚ) * 10 ^ (d.exponent + (ds.length + zeros : Nat) - 1 + 1 - ds.length) =
        d.magnitude := by
      rw [Decimal.magnitude, value]
      push_cast
      rw [mul_assoc, ← zpow_natCast, ← zpow_add₀ (by norm_num)]
      congr 2
      omega
    refine ⟨d.magnitude, ?_, near⟩
    simp only [Layout.digits, text, length]
    rw [← magnitude]
    split
    · exact spells_positional regular signed digits _
    · exact spells_scientific regular layout signed digits some _

end Layout

/-- The text of a double that is a number is a token for a numeral that rounds to the double. -/
theorem Binary64.exists_number_text {dialect : Numeral.Dialect} (regular : dialect.Regular) {x : Binary64}
    (number : x ≠ .nan) : ∃ n : Numeral, dialect.Number x.text.toList n ∧ n.RoundsTo x := by
  cases x with
  | nan => exact absurd rfl number
  | infinite neg =>
    have named : Text.isWord "inf" ['i', 'n', 'f'] = true := by decide
    refine ⟨.infinite neg, ?_, .infinite neg⟩
    cases neg with
    | false => exact .infinite .absent (Or.inl named)
    | true => exact .infinite .minus (Or.inl named)
  | finite neg units fits =>
    rw [text, String.toList_ofList]
    have spelled {sign : List Char} (signed : Numeral.Sign sign neg) :
        ∃ n : Numeral, dialect.Number (sign ++ Layout.everyday.magnitude units) n ∧
          n.RoundsTo (.finite neg units fits) := by
      obtain ⟨q, ⟨d, token, rfl, rfl⟩, near⟩ := Layout.spells_magnitude regular .everyday signed fits
      exact ⟨_, token, .decimal (.finite fits near)⟩
    cases neg with
    | false => exact spelled .absent
    | true => exact spelled .minus

namespace Numeral.Dialect

variable {dialect : Dialect}

theorem spells_intDigits (regular : dialect.Regular) (n : Int) :
    dialect.Spells (intDigits n) (n < 0) |(n : ℚ)| := by
  have spelled {sign : List Char} {neg : Bool} (signed : Sign sign neg) (k : Nat) :
      dialect.Spells (sign ++ Nat.toDigits 10 k) neg k := by
    obtain ⟨ds, text, digits, some, value⟩ := exists_toDigits k
    have token := spells_of_mantissa signed (.whole (regular.digits digits) some) .absent
    rw [text]
    simpa [value] using token
  cases n with
  | ofNat k =>
    have plain : decide (Int.ofNat k < 0) = false := by simp
    have size : |((Int.ofNat k : Int) : ℚ)| = k := by simp
    rw [plain, size]
    exact spelled .absent k
  | negSucc k =>
    have negative : decide (Int.negSucc k < 0) = true := by simp
    have size : |((Int.negSucc k : Int) : ℚ)| = (k + 1 : Nat) := by
      rw [Int.cast_negSucc, abs_neg, Nat.abs_cast]
    rw [negative, size]
    exact spelled .minus (k + 1)

end Numeral.Dialect

end AlertRange

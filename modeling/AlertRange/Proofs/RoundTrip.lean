import AlertRange.Proofs.NumberText
import AlertRange.Proofs.SpecGrammar
import AlertRange.Spec.Printer

namespace AlertRange

namespace Binary64

theorem toInt?_zero (neg : Bool) : toInt? (.finite neg 0 fits_zero) = some 0 := by
  cases neg <;> simp [toInt?, signed]

theorem boundText_congr {x y : Binary64} (equal : x.same y = true) : x.boundText = y.boundText := by
  rcases same_cases equal with rfl | ⟨a, b, rfl, rfl⟩
  · rfl
  · have small : Int.natAbs 0 < wholeLimit := by decide
    simp only [boundText, toInt?_zero, small, if_true]

theorem same_zero_congr {x y : Binary64} (equal : x.same y = true) : x.same .zero = y.same .zero := by
  obtain ⟨numberX, numberY, position⟩ := same_iff.mp equal
  rw [Bool.eq_iff_iff, same_iff, same_iff, position]
  simp [numberX, numberY]

theorem toInt?_cases {x : Binary64} {n : Int} (whole : x.toInt? = some n) :
    ∃ neg units fits, x = .finite neg units fits ∧ |(n : ℚ)| * unitsPerOne = units ∧
      signed (n < 0) units = signed neg units := by
  cases x with
  | nan => cases whole
  | infinite neg => cases whole
  | finite neg units fits =>
    rw [toInt?] at whole
    split at whole
    · next divides =>
      obtain ⟨k, rfl⟩ := Nat.dvd_of_mod_eq_zero divides
      rw [Nat.mul_div_cancel_left k unitsPerOne_pos] at whole
      cases whole
      refine ⟨neg, _, fits, rfl, ?_, ?_⟩
      · have size : |((signed neg k : Int) : ℚ)| = k := by cases neg <;> simp [signed]
        rw [size, Nat.cast_mul, mul_comm]
      · cases neg <;> by_cases zero : k = 0 <;> simp [signed, zero]
    · cases whole

/-- The text of a bound is a token for the bound, up to the sign of zero. -/
theorem exists_number_boundText {dialect : Numeral.Dialect} (regular : dialect.Regular) {x : Binary64}
    (number : x ≠ .nan) :
    ∃ (n : Numeral) (y : Binary64), dialect.Number x.boundText.toList n ∧ n.RoundsTo y ∧ y.same x = true := by
  have general : ∃ (n : Numeral) (y : Binary64), dialect.Number x.text.toList n ∧ n.RoundsTo y ∧
      y.same x = true := by
    obtain ⟨n, token, rounds⟩ := exists_number_text regular number
    exact ⟨n, x, token, rounds, same_refl number⟩
  unfold boundText
  split
  · next n whole =>
    split
    · obtain ⟨neg, units, fits, rfl, exact, sign⟩ := toInt?_cases whole
      obtain ⟨d, token, negative, magnitude⟩ := Numeral.Dialect.spells_intDigits regular n
      refine ⟨.decimal d, .finite (n < 0) units fits, ?_, .decimal ?_, same_iff.mpr ⟨nofun, nofun, sign⟩⟩
      · rwa [intText, String.toList_ofList]
      · rw [negative, magnitude, exact]
        exact .finite fits (nearest_of_precise fits.2)
    · exact general
  · exact general

end Binary64

namespace Range

open Spec (Body LowerBound)

theorem lowerText_congr {a b : Range} (equal : a.lower.same b.lower = true) : a.lowerText = b.lowerText := by
  have text := Binary64.boundText_congr equal
  unfold lowerText
  rcases Binary64.same_cases equal with lower | ⟨p, q, lower, lower'⟩
  · rw [lower]
  · rw [lower, lower'] at text ⊢
    rw [if_neg nofun, if_neg nofun, text]

theorem upperText_congr {a b : Range} (equal : a.upper.same b.upper = true) : a.upperText = b.upperText := by
  have text := Binary64.boundText_congr equal
  unfold upperText
  rcases Binary64.same_cases equal with upper | ⟨p, q, upper, upper'⟩
  · rw [upper]
  · rw [upper, upper'] at text ⊢
    rw [if_neg nofun, if_neg nofun, text]

theorem same_iff {a b : Range} : a.same b = true ↔
    (a.lower.same b.lower = true ∧ a.upper.same b.upper = true) ∧ a.invert = b.invert := by
  rw [same, Bool.and_eq_true, Bool.and_eq_true, beq_iff_eq]

theorem same_refl (range : Range) : range.same range = true :=
  same_iff.mpr ⟨⟨Binary64.same_refl range.lower_ne_nan, Binary64.same_refl range.upper_ne_nan⟩, rfl⟩

theorem spec_congr {a b : Range} (equal : a.same b = true) : a.spec = b.spec := by
  obtain ⟨⟨lower, upper⟩, invert⟩ := same_iff.mp equal
  rw [spec, spec, invert, Binary64.same_zero_congr lower, lowerText_congr lower, upperText_congr upper]

theorem violation_congr {a b : Range} (equal : a.same b = true) : a.violation = b.violation := by
  obtain ⟨⟨lower, upper⟩, invert⟩ := same_iff.mp equal
  rw [violation, violation, invert, lowerText_congr lower, upperText_congr upper]

def boundsText (range : Range) : List Char :=
  (if range.lower.same .zero then [] else range.lowerText.toList ++ [':']) ++ range.upperText.toList

theorem toList_spec (range : Range) :
    range.spec.toList = if range.invert then '@' :: range.boundsText else range.boundsText := by
  unfold spec boundsText
  cases range.invert <;> cases range.lower.same .zero <;> simp

theorem lowerBound_lowerText (range : Range) :
    ∃ x, LowerBound range.lowerText.toList x ∧ x.same range.lower = true := by
  unfold lowerText
  split
  · next unbounded =>
    rw [unbounded]
    exact ⟨_, .unbounded, Binary64.same_refl nofun⟩
  · obtain ⟨n, x, token, rounds, equal⟩ :=
      Binary64.exists_number_boundText Spec.boundDialect_regular range.lower_ne_nan
    exact ⟨x, .number token rounds, equal⟩

theorem upperText_cases (range : Range) :
    (range.upperText.toList = [] ∧ Binary64.infinity.same range.upper = true) ∨
      ∃ (n : Numeral) (y : Binary64), Spec.boundDialect.Number range.upperText.toList n ∧ n.RoundsTo y ∧
        y.same range.upper = true := by
  unfold upperText
  split
  · next unbounded =>
    rw [unbounded]
    exact Or.inl ⟨rfl, Binary64.same_refl nofun⟩
  · exact Or.inr (Binary64.exists_number_boundText Spec.boundDialect_regular range.upper_ne_nan)

theorem body_bothText (range : Range) :
    ∃ x y, Body (range.lowerText.toList ++ [':'] ++ range.upperText.toList) x y ∧ x.same range.lower = true ∧
      y.same range.upper = true := by
  obtain ⟨x, low, lower⟩ := range.lowerBound_lowerText
  rcases range.upperText_cases with ⟨empty, upper⟩ | ⟨n, y, token, rounds, upper⟩
  · rw [empty, List.append_nil]
    exact ⟨x, _, .lower low, lower, upper⟩
  · rw [List.append_assoc, List.singleton_append]
    exact ⟨x, y, .both low token rounds, lower, upper⟩

theorem body_boundsText (range : Range) :
    ∃ x y, Body range.boundsText x y ∧ x.same range.lower = true ∧ y.same range.upper = true := by
  unfold boundsText
  by_cases zero : range.lower.same .zero = true
  · have start : Binary64.zero.same range.lower = true := by
      rw [Binary64.same_iff] at zero ⊢
      exact ⟨nofun, zero.1, zero.2.2.symm⟩
    rw [if_pos zero, List.nil_append]
    rcases range.upperText_cases with ⟨empty, upper⟩ | ⟨n, y, token, rounds, upper⟩
    · rw [empty]
      exact ⟨_, _, .empty, start, upper⟩
    · exact ⟨_, y, .upper token rounds, start, upper⟩
  · rw [if_neg zero]
    exact range.body_bothText

end Range

namespace Spec

/-- The canonical text of a range reads back as the range, and the range read is written in the same way. -/
theorem exists_parse_spec (range : Range) :
    ∃ back, parse range.spec = .ok back ∧ back.same range = true ∧ back.spec = range.spec := by
  obtain ⟨x, y, body, lower, upper⟩ := range.body_boundsText
  let back : Range := ⟨x, y, range.invert, Binary64.le_of_same range.ordered lower upper⟩
  have equal : back.same range = true := by simp [back, Range.same, lower, upper]
  refine ⟨back, ?_, equal, Range.spec_congr equal⟩
  rw [parse_eq_ok_iff, Range.toList_spec]
  exact ⟨_, body.trimsTo_self range.invert, body.reads range.invert⟩

end Spec

end AlertRange

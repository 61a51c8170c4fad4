import AlertRange.Proofs.CheckReport
import AlertRange.Proofs.ExactDouble
import AlertRange.Range.Steps

namespace AlertRange

/-! ### Conversion -/

namespace Value

open Binary64 (ofInt)

theorem finiteDouble_of_small {n : Int} (small : n.natAbs ≤ 2 ^ 53) : finiteDouble n = .ok (ofInt n) := by
  have exact := Binary64.denotes_ofInt small
  have finite : (ofInt n).isInfinite = false := by
    cases rounded : ofInt n with
    | nan => rfl
    | finite neg units fits => rfl
    | infinite neg =>
      rw [rounded] at exact
      generalize number : (((n : ℚ) : WithTop ℚ) : WithBot (WithTop ℚ)) = q at exact
      cases exact
      cases neg <;> simp at number
  rw [finiteDouble, finite]
  rfl

theorem ofInt_of_isInfinite {n : Int} (infinite : (ofInt n).isInfinite = true) : ofInt n = .infinite (n < 0) := by
  rw [ofInt, Binary64.ofRatio] at infinite ⊢
  split at infinite
  · cases infinite
  · next beyond => rw [dif_neg beyond]

theorem widen_eq (n : Int) : widen n = ofInt n := by
  cases infinite : (ofInt n).isInfinite with
  | false =>
    have converted : finiteDouble n = .ok (ofInt n) := by simp [finiteDouble, infinite]
    rw [widen, converted, Except.toOption, Option.getD_some]
  | true =>
    have failed : finiteDouble n = .error (.tooLarge n) := by simp [finiteDouble, infinite]
    -- zero has a double, so that the number and the infinity have one sign
    have nonzero : n ≠ 0 := by
      intro zero
      have converted := finiteDouble_of_small (n := n) (by simp [zero])
      rw [failed] at converted
      cases converted
    rw [widen, failed, ofInt_of_isInfinite infinite, Except.toOption, Option.getD_none]
    by_cases positive : 0 < n
    · have sign : ¬ n < 0 := by omega
      simp [positive, sign, Binary64.infinity]
    · have sign : n < 0 := by omega
      simp [positive, sign]

end Value

namespace Range

/-! ### Exact and rounded membership -/

variable {range : Range} {n : Int}

theorem exists_bounds (range : Range) : ∃ a b, range.lower.Denotes a ∧ range.upper.Denotes b := by
  obtain ⟨a, low⟩ := Binary64.exists_denotes range.lower_ne_nan
  obtain ⟨b, up⟩ := Binary64.exists_denotes range.upper_ne_nan
  exact ⟨a, b, low, up⟩

theorem containsInt_iff {a b : WithBot (WithTop ℚ)} (low : range.lower.Denotes a) (up : range.upper.Denotes b) :
    range.containsInt n = true ↔
      a ≤ (((n : ℚ) : WithTop ℚ) : WithBot (WithTop ℚ)) ∧ (((n : ℚ) : WithTop ℚ) : WithBot (WithTop ℚ)) ≤ b := by
  rw [containsInt, Bool.and_eq_true, low.leInt_iff, up.intLe_iff]

theorem contains_of_containsInt (inside : range.containsInt n = true) : range.contains (.ofInt n) = true := by
  obtain ⟨a, b, low, up⟩ := range.exists_bounds
  obtain ⟨above, below⟩ := (containsInt_iff low up).mp inside
  have rounded := Binary64.rounds_ofInt n
  exact contains_iff.mpr ⟨low.rounds.mono rounded above, rounded.mono up.rounds below⟩

theorem same_or_same_of_contains (outside : range.containsInt n = false)
    (counted : range.contains (.ofInt n) = true) :
    (Binary64.ofInt n).same range.lower = true ∨ (Binary64.ofInt n).same range.upper = true := by
  obtain ⟨a, b, low, up⟩ := range.exists_bounds
  obtain ⟨above, below⟩ := contains_iff.mp counted
  apply low.rounds.same_or_same up.rounds (Binary64.rounds_ofInt n) above below
  intro between
  rw [(containsInt_iff low up).mpr between] at outside
  cases outside

theorem contains_ofInt_of_small (small : n.natAbs ≤ 2 ^ 53) : range.contains (.ofInt n) = range.containsInt n := by
  obtain ⟨a, b, low, up⟩ := range.exists_bounds
  have exact := Binary64.denotes_ofInt small
  rw [Bool.eq_iff_iff, contains_iff, containsInt_iff low up, low.le_iff exact, exact.le_iff up]

theorem contains_ofInt_of_apart (notLower : (Binary64.ofInt n).same range.lower = false)
    (notUpper : (Binary64.ofInt n).same range.upper = false) :
    range.contains (.ofInt n) = range.containsInt n := by
  rw [Bool.eq_iff_iff]
  constructor
  · intro counted
    by_contra outside
    rw [Bool.not_eq_true] at outside
    have bound := same_or_same_of_contains outside counted
    simp [notLower, notUpper] at bound
  · exact contains_of_containsInt

/-- A range tells whether a whole number is inside from the exact numbers, and whether it raises an alert from
their doubles. What is inside is inside for the alert too, and what is inside for the alert alone has a bound
as its double. So the two answers agree up to `2 ^ 53`, and wherever the double is not a bound. -/
theorem contains?_check_of_int (range : Range) (n : Int) :
    ∃ a b inside verdict widened, range.lower.Denotes a ∧ range.upper.Denotes b ∧
      range.contains? (.int n) = .ok inside ∧ range.check (.int n) = .ok verdict ∧
      (inside = true ↔
        a ≤ (((n : ℚ) : WithTop ℚ) : WithBot (WithTop ℚ)) ∧ (((n : ℚ) : WithTop ℚ) : WithBot (WithTop ℚ)) ≤ b) ∧
      (Value.int n).checkedNumber = .ok widened ∧ Value.widen n = widened ∧
      widened.Rounds (((n : ℚ) : WithTop ℚ) : WithBot (WithTop ℚ)) ∧
      (inside = true → range.contains widened = true ∧ verdict = range.invert) ∧
      (inside = false → verdict = range.invert →
        widened.same range.lower = true ∨ widened.same range.upper = true) ∧
      (n.natAbs ≤ 2 ^ 53 ∨ (widened.same range.lower = false ∧ widened.same range.upper = false) →
        verdict = !(inside ^^ range.invert)) := by
  obtain ⟨a, b, low, up⟩ := range.exists_bounds
  refine ⟨a, b, range.containsInt n, range.alerts (.ofInt n), .ofInt n, low, up, rfl, rfl, containsInt_iff low up,
    rfl, Value.widen_eq n, Binary64.rounds_ofInt n, ?_, ?_, ?_⟩
  · intro inside
    have counted := contains_of_containsInt inside
    exact ⟨counted, alerts_eq_invert_iff.mpr counted⟩
  · intro outside verdict
    exact same_or_same_of_contains outside (alerts_eq_invert_iff.mp verdict)
  · intro apart
    rw [alerts_eq]
    rcases apart with small | ⟨notLower, notUpper⟩
    · rw [contains_ofInt_of_small small]
    · rw [contains_ofInt_of_apart notLower notUpper]

/-- Outside a range that is not inverted there is an alert. -/
theorem contains?_check_of_negative :
    (-1 : Int).natAbs ≤ 2 ^ 53 ∧
      ∃ inside verdict, nonnegative.contains? (.int (-1)) = .ok inside ∧
        nonnegative.check (.int (-1)) = .ok verdict ∧
        verdict ≠ (inside ^^ nonnegative.invert) := by
  have inside : nonnegative.containsInt (-1) = false := by decide +kernel
  have verdict : nonnegative.alerts (.ofInt (-1)) = true := by decide +kernel
  refine ⟨by norm_num, _, _, rfl, rfl, ?_⟩
  rw [inside, verdict]
  decide

end Range

/-! ### The three checks -/

inductive Checker where
  | number
  | whole
  | whole32

namespace Checker

def run : Checker → Range → Value → Except CheckError Bool
  | .number => Range.check
  | .whole => Range.checkWhole
  | .whole32 => Range.checkWhole32

def runInSteps : Checker → Range → Value → Except CheckStop Bool
  | .number => Range.checkInSteps
  | .whole => Range.checkWholeInSteps
  | .whole32 => Range.checkWhole32InSteps

/-- A truth value is taken by none of them. -/
inductive Takes : Checker → Value → Prop
  | float (x : Binary64) : Takes .number (.float x)
  | int (n : Int) : Takes .number (.int n)
  | whole (n : Int) : Takes .whole (.int n)
  | whole32 {n : Int} (low : -2 ^ 31 ≤ n) (high : n ≤ 2 ^ 31 - 1) : Takes .whole32 (.int n)

def refusal : Checker → Value → CheckError
  | .number, value => .notNumber value
  | .whole, value => .notWhole value
  | .whole32, .int n => .ofBeyond32 n
  | .whole32, value => .notWhole32 value

theorem kind_refusal_cases (checker : Checker) (value : Value) :
    ((checker.refusal value).kind = .type ∧ ¬ (checker = .whole32 ∧ ∃ n, value = .int n)) ∨
      ∃ n, checker = .whole32 ∧ value = .int n ∧
        ((n.natAbs < 10 ^ digitLimit ∧ checker.refusal value = .beyond32 n) ∨
          (10 ^ digitLimit ≤ n.natAbs ∧ checker.refusal value = .unwritten .tooManyDigits)) := by
  cases checker with
  | number => exact Or.inl ⟨rfl, nofun⟩
  | whole => exact Or.inl ⟨rfl, nofun⟩
  | whole32 =>
    cases value with
    | int n =>
      refine Or.inr ⟨n, rfl, rfl, ?_⟩
      rcases Nat.lt_or_ge n.natAbs (10 ^ digitLimit) with short | long
      · exact Or.inl ⟨short, CheckError.ofBeyond32_of_short short⟩
      · exact Or.inr ⟨long, CheckError.ofBeyond32_of_long long⟩
    | _ => exact Or.inl ⟨rfl, by simp⟩

theorem kind_refusal_iff (checker : Checker) (value : Value) :
    ((checker.refusal value).kind = .overflow ↔
      checker = .whole32 ∧ ∃ n, value = .int n ∧ n.natAbs < 10 ^ digitLimit) ∧
    ((checker.refusal value).kind = .text ↔
      checker = .whole32 ∧ ∃ n, value = .int n ∧ 10 ^ digitLimit ≤ n.natAbs) := by
  rcases kind_refusal_cases checker value with ⟨kind, other⟩ | ⟨n, rfl, rfl, ⟨short, refused⟩ | ⟨long, refused⟩⟩
  · rw [kind]
    refine ⟨iff_of_false nofun ?_, iff_of_false nofun ?_⟩ <;>
      exact fun ⟨narrow, n, same, _⟩ => other ⟨narrow, n, same⟩
  · rw [refused]
    refine ⟨iff_of_true rfl ⟨rfl, n, rfl, short⟩, iff_of_false nofun ?_⟩
    rintro ⟨-, m, same, long⟩
    cases same
    exact absurd short (Nat.not_lt.mpr long)
  · rw [refused]
    refine ⟨iff_of_false nofun ?_, iff_of_true rfl ⟨rfl, n, rfl, long⟩⟩
    rintro ⟨-, m, same, short⟩
    cases same
    exact absurd short (Nat.not_lt.mpr long)

theorem fits32_iff (n : Int) :
    Int32.minValue.toInt ≤ n ∧ n ≤ Int32.maxValue.toInt ↔ -2 ^ 31 ≤ n ∧ n ≤ 2 ^ 31 - 1 := by
  rw [Int32.toInt_minValue, Int32.toInt_maxValue]

theorem takes_whole32_iff (n : Int) :
    Takes .whole32 (.int n) ↔ Int32.minValue.toInt ≤ n ∧ n ≤ Int32.maxValue.toInt := by
  rw [fits32_iff]
  constructor
  · intro takes
    cases takes with
    | whole32 low high => exact ⟨low, high⟩
  · rintro ⟨low, high⟩
    exact .whole32 low high

/-- Thirty-two bits hold ten digits at most. -/
theorem not_takes_of_long {n : Nat} (long : 10 ^ digitLimit ≤ n) : ¬ Takes .whole32 (.int n) := by
  have large : 10 ^ 10 ≤ n := pow_ten_le.trans long
  intro takes
  cases takes with
  | whole32 low high => omega

variable {checker : Checker} {value : Value}

theorem run_of_takes (range : Range) (takes : checker.Takes value) :
    checker.run range value = .ok (range.raises value) := by
  cases takes with
  | float x => rfl
  | int n => rfl
  | whole n => rfl
  | @whole32 n low high =>
    have fits := (fits32_iff n).mpr ⟨low, high⟩
    simp only [run, Range.checkWhole32, Value.checkedWhole32, if_pos fits]
    rfl

theorem run_of_not_takes (range : Range) (refused : ¬ checker.Takes value) :
    checker.run range value = .error (checker.refusal value) := by
  cases checker with
  | number =>
    cases value with
    | int n => exact absurd (.int n) refused
    | float x => exact absurd (.float x) refused
    | _ => rfl
  | whole =>
    cases value with
    | int n => exact absurd (.whole n) refused
    | _ => rfl
  | whole32 =>
    cases value with
    | int n =>
      rw [takes_whole32_iff] at refused
      simp only [run, Range.checkWhole32, Value.checkedWhole32, if_neg refused]
      rfl
    | _ => rfl

/-- No check fails in a conversion, so that the steps come to what the check is as a whole. -/
theorem runInSteps_eq (checker : Checker) (range : Range) (value : Value) :
    checker.runInSteps range value = (checker.run range value).mapError .refused := by
  cases checker with
  | number =>
    cases value with
    | int n =>
      simp only [runInSteps, Range.checkInSteps, Value.widen_eq]
      rfl
    | _ => rfl
  | whole =>
    cases value with
    | int n =>
      simp only [runInSteps, Range.checkWholeInSteps, Range.checkInSteps, Value.widen_eq]
      rfl
    | _ => rfl
  | whole32 =>
    cases value with
    | int n =>
      simp only [runInSteps, run, Range.checkWhole32InSteps, Range.checkWhole32, Value.checkedWhole32]
      split
      · next fits =>
        -- the bounds are looked at before the conversion, which does not fail between them
        obtain ⟨low, high⟩ := (fits32_iff n).mp fits
        rw [Value.finiteDouble_of_small (by omega)]
        rfl
      · rw [CheckError.ofBeyond32, Value.shown?, Value.guarded]
        cases (Value.int n).fault? <;> rfl
    | _ => rfl

end Checker

/-- One verdict is given by every checker that takes the value, and those that do not take it fail: for the
type of the value, or by an overflow for a whole number beyond 32 bits. Of a number with more than 4300 digits
the message of that overflow cannot be made, so that it fails for that instead. Whole numbers of any size are
taken by the first two, and no conversion to a double fails on the way. -/
theorem checkers_agree (range : Range) (value : Value) :
    ∃ verdict, (∀ checker : Checker,
        checker.runInSteps range value = (checker.run range value).mapError .refused ∧
        (checker.Takes value → checker.run range value = .ok verdict) ∧
        (¬ checker.Takes value → checker.run range value = .error (checker.refusal value) ∧
          ((checker.refusal value).kind = .overflow ↔
            checker = .whole32 ∧ ∃ n, value = .int n ∧ n.natAbs < 10 ^ digitLimit) ∧
          ((checker.refusal value).kind = .text ↔
            checker = .whole32 ∧ ∃ n, value = .int n ∧ 10 ^ digitLimit ≤ n.natAbs))) ∧
      ∀ n, value = .int n →
        range.checkInSteps value = .ok verdict ∧ range.checkWholeInSteps value = .ok verdict := by
  refine ⟨range.raises value, ?_, ?_⟩
  · intro checker
    refine ⟨checker.runInSteps_eq range value, Checker.run_of_takes range, ?_⟩
    intro refused
    exact ⟨Checker.run_of_not_takes range refused, checker.kind_refusal_iff value⟩
  · rintro n rfl
    have number := Checker.runInSteps_eq .number range (.int n)
    have whole := Checker.runInSteps_eq .whole range (.int n)
    rw [Checker.run_of_takes range (.int n)] at number
    rw [Checker.run_of_takes range (.whole n)] at whole
    exact ⟨number, whole⟩

/-- The least whole number with too many digits is beyond 32 bits, and does not overflow. -/
theorem checkers_agree_unwritten :
    ∃ n : Nat, n = 10 ^ digitLimit ∧ ¬ Checker.whole32.Takes (.int n) ∧
      Checker.whole32.run .nonnegative (.int n) = .error (.unwritten .tooManyDigits) ∧
      (CheckError.unwritten .tooManyDigits).kind ≠ .overflow := by
  obtain ⟨n, least⟩ : ∃ n, n = 10 ^ digitLimit := ⟨_, rfl⟩
  have long : 10 ^ digitLimit ≤ (n : Int).natAbs := by rw [Int.natAbs_natCast, least]
  have refused := Checker.not_takes_of_long (Nat.le_of_eq least.symm)
  refine ⟨n, least, refused, ?_, nofun⟩
  rw [Checker.run_of_not_takes .nonnegative refused, Checker.refusal, CheckError.ofBeyond32_of_long long]

end AlertRange

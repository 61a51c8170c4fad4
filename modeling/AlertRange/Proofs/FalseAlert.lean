import AlertRange.CommandLine.Operand
import AlertRange.Proofs.SpecGrammar
import AlertRange.Range.Check

namespace AlertRange

open Numeral (Dialect)

namespace CommandLine

theorem valueDialect_regular : valueDialect.Regular :=
  Dialect.regular_digitValue? true

theorem foreign_of_isWhiteSpace {c : Char} (blank : Text.isWhiteSpace c = true) : valueDialect.Foreign c := by
  obtain ⟨row, member, inside⟩ := List.any_eq_true.mp blank
  rw [Bool.and_eq_true, decide_eq_true_eq, decide_eq_true_eq] at inside
  have noLetter : ¬ (0x41 ≤ c.toNat ∧ c.toNat ≤ 0x5a) := by
    have apart : ∀ row ∈ Text.whiteSpaceTable, row.2 < 0x41 ∨ 0x5a < row.1 := by decide
    have capitals := apart row member
    omega
  have other {marks : List Char} (solid : marks.any Text.isWhiteSpace = false) : c ∉ marks := by
    intro mark
    have found := List.any_eq_true.mpr ⟨c, mark, blank⟩
    rw [solid] at found
    cases found
  refine ⟨?_, other (by decide), ?_⟩
  · cases value : valueDialect.digitValue? c with
    | none => rfl
    | some d =>
      have apart : ∀ row ∈ Text.whiteSpaceTable, ∀ first ∈ Text.digitZeros, row.2 < first ∨
        first + 10 ≤ row.1 := by
        decide
      obtain ⟨first, found, -⟩ := Option.map_eq_some_iff.mp value
      have digit := List.find?_some found
      rw [Bool.and_eq_true, decide_eq_true_eq, decide_eq_true_eq] at digit
      have disjoint := apart row member first (List.mem_of_find?_eq_some found)
      omega
  · rw [Dialect.toLower_of_code noLetter]
    exact other (by decide)

theorem joinDigits?_of_not_mem {cs : List Char} (none : '_' ∉ cs) (afterDigit : Bool) :
    joinDigits? afterDigit cs = some cs := by
  induction cs generalizing afterDigit with
  | nil => rfl
  | cons c rest ih =>
    rw [List.mem_cons, not_or] at none
    rw [joinDigits?, if_neg (Ne.symm none.1), ih none.2]
    · rfl
    · intro _ _ equal
      exact absurd equal.symm none.1

theorem readValue?_of_plain {word : String} (solid : ∀ c ∈ word.toList, Text.isWhiteSpace c = false)
    (joined : '_' ∉ word.toList) : readValue? word = (valueDialect.read? word.toList).map Numeral.toBinary64 := by
  have trimmed : Text.trim Text.isWhiteSpace word.toList = word.toList :=
    Text.trimsTo_iff.mp (Text.trimsTo_self solid)
  rw [readValue?, trimmed, joinDigits?_of_not_mem joined, Option.bind_some]

theorem readValue?_of_number {word : String} {n : Numeral} (token : valueDialect.Number word.toList n) :
    readValue? word = some n.toBinary64 := by
  have solid : ∀ c ∈ word.toList, Text.isWhiteSpace c = false := by
    intro c member
    rw [Bool.eq_false_iff]
    intro blank
    exact (foreign_of_isWhiteSpace blank).not_mem token member
  have joined : '_' ∉ word.toList := Dialect.Foreign.not_mem (by decide) token
  rw [readValue?_of_plain solid joined, Dialect.read?_of_number valueDialect_regular token]
  rfl

end CommandLine

/-- A double of an exact number: the double of a numeral that denotes it. -/
def Binary64.Rounds (x : Binary64) (q : WithBot (WithTop ℚ)) : Prop :=
  ∃ n : Numeral, n.Denotes q ∧ n.toBinary64 = x

theorem Binary64.Rounds.mono {x y : Binary64} {q r : WithBot (WithTop ℚ)} (first : x.Rounds q)
    (second : y.Rounds r) (le : q ≤ r) : x ≤ y := by
  obtain ⟨m, denotes, rfl⟩ := first
  obtain ⟨n, denotes', rfl⟩ := second
  exact denotes.toBinary64_mono denotes' le

theorem Binary64.rounds_ofInt (n : Int) : (ofInt n).Rounds (((n : ℚ) : WithTop ℚ) : WithBot (WithTop ℚ)) := by
  have denotes := Numeral.Denotes.decimal (.ofInt n)
  rw [Decimal.value_ofInt] at denotes
  exact ⟨_, denotes, Decimal.toBinary64_ofInt n⟩

/-- A double between two others, of a number that is not between theirs, lies on one of them. -/
theorem Binary64.Rounds.same_or_same {x y z : Binary64} {a b v : WithBot (WithTop ℚ)} (first : x.Rounds a)
    (second : y.Rounds b) (third : z.Rounds v) (above : x ≤ z) (below : z ≤ y) (outside : ¬ (a ≤ v ∧ v ≤ b)) :
    z.same x = true ∨ z.same y = true := by
  by_cases fromBelow : a ≤ v
  · have beyond : b < v := by
      by_contra inside
      exact outside ⟨fromBelow, not_lt.mp inside⟩
    exact Or.inr (same_of_le below (second.mono third beyond.le))
  · have short : v < a := not_le.mp fromBelow
    exact Or.inl (same_of_le (third.mono first short.le) above)

inductive LowerToken : List Char → WithBot (WithTop ℚ) → Prop
  | unbounded : LowerToken ['~'] ⊥
  | number {cs n q} (token : Spec.boundDialect.Number cs n) (denotes : n.Denotes q) : LowerToken cs q

inductive UpperToken : List Char → WithBot (WithTop ℚ) → Prop
  | unbounded : UpperToken [] ((⊤ : WithTop ℚ) : WithBot (WithTop ℚ))
  | number {cs n q} (token : Spec.boundDialect.Number cs n) (denotes : n.Denotes q) : UpperToken cs q

/-- A value that is checked and the exact number that it comes from: a whole number, or the double that a number
token was read as. -/
inductive Measured : Value → WithBot (WithTop ℚ) → Prop
  | int (n : Int) : Measured (.int n) (((n : ℚ) : WithTop ℚ) : WithBot (WithTop ℚ))
  | text {word : String} {n q x} (token : CommandLine.valueDialect.Number word.toList n) (denotes : n.Denotes q)
      (read : CommandLine.readValue? word = some x) : Measured (.float x) q

theorem LowerToken.exists_bound {cs : List Char} {q : WithBot (WithTop ℚ)} (low : LowerToken cs q) :
    ∃ x, Spec.LowerBound cs x ∧ x.Rounds q := by
  cases low with
  | unbounded => exact ⟨_, .unbounded, .infinite true, .infinite true, rfl⟩
  | @number _ n _ token denotes =>
    have rounds := (Numeral.roundsTo_iff (Dialect.number_ne_nan token)).mpr rfl
    exact ⟨n.toBinary64, .number token rounds, n, denotes, rfl⟩

theorem LowerToken.exists_body {lower upper : List Char} {a b : WithBot (WithTop ℚ)} (low : LowerToken lower a)
    (up : UpperToken upper b) :
    ∃ x y, Spec.Body (lower ++ ':' :: upper) x y ∧ x.Rounds a ∧ y.Rounds b := by
  obtain ⟨x, bound, first⟩ := low.exists_bound
  cases up with
  | unbounded => exact ⟨x, _, .lower bound, first, .infinite false, .infinite false, rfl⟩
  | @number _ n _ token denotes =>
    have rounds := (Numeral.roundsTo_iff (Dialect.number_ne_nan token)).mpr rfl
    exact ⟨x, n.toBinary64, .both bound token rounds, first, n, denotes, rfl⟩

theorem Measured.exists_checkedNumber {value : Value} {v : WithBot (WithTop ℚ)} (measured : Measured value v) :
    ∃ z, value.checkedNumber = .ok z ∧ z.Rounds v := by
  cases measured with
  | int n => exact ⟨_, rfl, Binary64.rounds_ofInt n⟩
  | @text word n q x token denotes read =>
    rw [CommandLine.readValue?_of_number token] at read
    cases read
    exact ⟨_, rfl, n, denotes, rfl⟩

namespace Range

variable {range : Range}

theorem alerts_eq (range : Range) (x : Binary64) : range.alerts x = !(range.contains x ^^ range.invert) := by
  rw [alerts]
  cases range.contains x <;> simp

theorem alerts_eq_invert_iff {x : Binary64} : range.alerts x = range.invert ↔ range.contains x = true := by
  rw [alerts_eq]
  cases range.contains x <;> simp

theorem check_eq_invert_iff {value : Value} {z : Binary64} (number : value.checkedNumber = .ok z) :
    range.check value = .ok range.invert ↔ range.lower ≤ z ∧ z ≤ range.upper := by
  rw [check, number, Except.map, Except.ok.injEq, alerts_eq_invert_iff, contains_iff]

end Range

/-- Let a text be read as a range, inverted or not, and a value be checked. If the value lies inside by the exact
numbers then the text is accepted and the verdict is the one for the inside: no alert, or an alert if inverted. If
the verdict is that one although the value lies outside, then its double is one of the bounds. The text is refused
only if its end lies below its start. -/
theorem no_false_alert {lower upper : List Char} {a b v : WithBot (WithTop ℚ)} {value : Value}
    (low : LowerToken lower a) (up : UpperToken upper b) (measured : Measured value v) (invert : Bool) :
    let answer := Spec.parse (.ofList (if invert then '@' :: (lower ++ ':' :: upper) else lower ++ ':' :: upper))
    (a ≤ v ∧ v ≤ b → ∃ range, answer = .ok range ∧ range.check value = .ok invert) ∧
      (∀ range, answer = .ok range → range.check value = .ok invert → ¬ (a ≤ v ∧ v ≤ b) →
        ∃ z, value.checkedNumber = .ok z ∧ (z.same range.lower = true ∨ z.same range.upper = true)) ∧
      ∀ error, answer = .error error → b < a ∧ error.code = "INVALID_ORDER" := by
  intro answer
  obtain ⟨x, y, body, first, second⟩ := low.exists_body up
  obtain ⟨z, number, third⟩ := measured.exists_checkedNumber
  have parsed : answer = _ := body.parse_eq invert
  refine ⟨?_, ?_, ?_⟩
  · rintro ⟨above, below⟩
    have lowerLe := first.mono third above
    have leUpper := third.mono second below
    have ordered := Binary64.le_trans lowerLe leUpper
    rw [dif_pos ordered] at parsed
    exact ⟨_, parsed, (Range.check_eq_invert_iff number).mpr ⟨lowerLe, leUpper⟩⟩
  · intro range accepted counted outside
    rw [accepted] at parsed
    split at parsed
    · cases parsed
      obtain ⟨lowerLe, leUpper⟩ := (Range.check_eq_invert_iff number).mp counted
      exact ⟨z, number, first.same_or_same second third lowerLe leUpper outside⟩
    · cases parsed
  · intro error refused
    rw [refused] at parsed
    split at parsed
    · cases parsed
    · next disorder =>
      cases parsed
      refine ⟨?_, rfl⟩
      by_contra notBelow
      exact disorder (first.mono second (not_lt.mp notBelow))

/-- A whole number between two doubles is inside the range that it bounds on both sides. -/
theorem no_false_alert_of_unrounded :
    let digits := "9007199254740993".toList
    let n : Int := 9007199254740993
    let exact : WithBot (WithTop ℚ) := (((n : ℚ) : WithTop ℚ) : WithBot (WithTop ℚ))
    (LowerToken digits exact ∧ UpperToken digits exact ∧ Measured (.int n) exact) ∧
      ∃ range, Spec.parse (.ofList (digits ++ ':' :: digits)) = .ok range ∧ range.check (.int n) = .ok false := by
  intro digits n exact
  have token : Spec.boundDialect.Number digits (.decimal (.ofInt n)) := by
    apply (Dialect.read?_eq_some_iff Spec.boundDialect_regular rfl).mp
    decide +kernel
  have denotes : (Numeral.decimal (.ofInt n)).Denotes exact := by
    have written := Numeral.Denotes.decimal (.ofInt n)
    rwa [Decimal.value_ofInt] at written
  have low := LowerToken.number token denotes
  have up := UpperToken.number token denotes
  refine ⟨⟨low, up, .int n⟩, ?_⟩
  exact (no_false_alert low up (.int n) false).1 ⟨le_rfl, le_rfl⟩

end AlertRange

import AlertRange.Proofs.CompleteInvariant

namespace AlertRange.Range

variable (range : Range)

def namedBounds : String :=
  range.lowerText ++ ":" ++ range.upperText

theorem violation_eq :
    range.violation = (if range.invert then "inside range " else "outside range ") ++ range.namedBounds := by
  unfold violation namedBounds
  rw [← String.append_assoc, ← String.append_assoc]
  cases range.invert <;> rfl

theorem inside_prefix_violation_iff : "inside".toList <+: range.violation.toList ↔ range.invert = true := by
  rw [violation_eq, String.toList_append]
  cases range.invert with
  | true =>
    refine iff_of_true ?_ rfl
    exact List.IsPrefix.trans (show "inside".toList <+: "inside range ".toList by decide) (List.prefix_append _ _)
  | false =>
    refine iff_of_false ?_ (by decide)
    intro inside
    have first := List.prefix_of_prefix_length_le inside (List.prefix_append "outside range ".toList _) (by decide)
    exact absurd first (by decide)

/-- The bounds that are named read back as the range, with the mark of an inverted one. -/
theorem exists_parse_namedBounds :
    ∃ back, Spec.parse ((if range.invert then "@" else "") ++ range.namedBounds) = .ok back ∧
      back.same range = true := by
  obtain ⟨x, y, body, lower, upper⟩ := range.body_bothText
  have ordered : x ≤ y := Binary64.le_of_same range.ordered lower upper
  have text : (if range.invert then "@" else "") ++ range.namedBounds =
      .ofList (if range.invert then '@' :: (range.lowerText.toList ++ [':'] ++ range.upperText.toList)
        else range.lowerText.toList ++ [':'] ++ range.upperText.toList) := by
    apply String.toList_inj.mp
    unfold namedBounds
    cases range.invert <;> simp
  refine ⟨⟨x, y, range.invert, ordered⟩, ?_, same_iff.mpr ⟨⟨lower, upper⟩, rfl⟩⟩
  rw [text, body.parse_eq, dif_pos ordered]

theorem lowerText_eq_tilde_iff : range.lowerText = "~" ↔ range.lower = .infinite true := by
  unfold lowerText
  split
  · next unbounded => exact iff_of_true rfl unbounded
  · next bounded =>
    refine iff_of_false ?_ bounded
    intro tilde
    obtain ⟨n, x, token, -⟩ := Binary64.exists_number_boundText Spec.boundDialect_regular range.lower_ne_nan
    have foreign : Spec.boundDialect.Foreign '~' := by decide
    apply foreign.not_mem token
    rw [tilde]
    decide

theorem upperText_eq_empty_iff : range.upperText = "" ↔ range.upper = .infinity := by
  unfold upperText
  split
  · next unbounded => exact iff_of_true rfl unbounded
  · next bounded =>
    refine iff_of_false ?_ bounded
    intro empty
    obtain ⟨n, x, token, -⟩ := Binary64.exists_number_boundText Spec.boundDialect_regular range.upper_ne_nan
    apply Numeral.Dialect.number_ne_nil Spec.boundDialect_regular token
    rw [empty]
    rfl

theorem lowerText_of_zero {range : Range} (zero : range.lower.same .zero = true) :
    range.lowerText = "0" ∧ range.spec = (if range.invert then "@" else "") ++ range.upperText := by
  have text : range.lower.boundText = "0" := (Binary64.boundText_congr zero).trans (by decide +kernel)
  have bounded : range.lower ≠ .infinite true := by
    intro unbounded
    rw [unbounded] at zero
    exact absurd zero (by decide +kernel)
  constructor
  · rw [lowerText, if_neg bounded, text]
  · rw [spec, zero, if_pos rfl, String.append_empty]

variable {a b : Range}

theorem same_of_violation_eq (equal : a.violation = b.violation) : a.same b = true := by
  have invert : a.invert = b.invert := by
    rw [Bool.eq_iff_iff, ← inside_prefix_violation_iff, ← inside_prefix_violation_iff, equal]
  have bounds : a.namedBounds = b.namedBounds := by
    rw [violation_eq, violation_eq, invert] at equal
    exact String.append_right_inj _ |>.mp equal
  obtain ⟨back, read, sameA⟩ := a.exists_parse_namedBounds
  obtain ⟨back', read', sameB⟩ := b.exists_parse_namedBounds
  rw [invert, bounds, read'] at read
  cases read
  exact same_trans (same_symm sameA) sameB

theorem same_iff_violation_eq : a.violation = b.violation ↔ a.same b = true :=
  ⟨same_of_violation_eq, violation_congr⟩

/-- The words for the alerts of a range name bounds that read back as the range, and ranges have the same
words exactly if they are the same. A tilde stands for no other lower bound than minus infinity, and nothing
for no other upper bound than infinity; zero is named where the canonical text leaves it out. -/
theorem violation_reads_back (range : Range) :
    (∃ start stop back,
      range.violation = (if range.invert then "inside range " else "outside range ") ++ (start ++ ":" ++ stop) ∧
      Spec.parse ((if "inside".toList <+: range.violation.toList then "@" else "") ++
        (start ++ ":" ++ stop)) = .ok back ∧
      back.same range = true ∧
      (start = "~" ↔ range.lower = .infinite true) ∧ (stop = "" ↔ range.upper = .infinity) ∧
      (range.lower.same .zero = true → start = "0" ∧ range.spec = (if range.invert then "@" else "") ++ stop)) ∧
    ∀ other : Range, range.violation = other.violation ↔ range.same other = true := by
  refine ⟨?_, fun other => same_iff_violation_eq⟩
  obtain ⟨back, read, same⟩ := range.exists_parse_namedBounds
  simp only [inside_prefix_violation_iff]
  exact ⟨range.lowerText, range.upperText, back, range.violation_eq, read, same, range.lowerText_eq_tilde_iff,
    range.upperText_eq_empty_iff, lowerText_of_zero⟩

/-- A range that is a single infinity is named by it. -/
example : (Range.violation ⟨.infinity, .infinity, true, by decide +kernel⟩) = "inside range inf:" := by
  decide +kernel

end AlertRange.Range

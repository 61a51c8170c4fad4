import AlertRange.Range.Loose

namespace AlertRange

namespace Value

theorem same_zero (x : Binary64) : (Value.float x).same (.int 0) = x.same .zero := by
  cases x with
  | nan => rfl
  | infinite neg =>
    have positive := unitLimit_pos
    cases neg <;>
      simp [Value.same, numberLe, whole?, Binary64.leInt, Binary64.intLe, Binary64.same, Binary64.isNaN,
        Binary64.position, Binary64.signed, Binary64.zero] <;> omega
  | finite neg units fits =>
    simp only [Value.same, numberLe, whole?, Binary64.leInt, Binary64.intLe, Binary64.same, Binary64.isNaN,
      Binary64.zero, Option.any_some, Int.zero_mul, Bool.not_false, Bool.true_and]
    rw [Bool.eq_iff_iff, Bool.and_eq_true, decide_eq_true_iff, decide_eq_true_iff, beq_iff_eq]
    exact Int.le_antisymm_iff.symm

theorem same_float (x y : Binary64) :
    (Value.float x).same (.float y) = true ↔ x ≠ .nan ∧ y ≠ .nan ∧ x.position = y.position := by
  simp only [Value.same, numberLe, Bool.and_eq_true, decide_eq_true_iff, Binary64.le_def]
  constructor
  · intro both
    exact ⟨both.1.1, both.1.2.1, Int.le_antisymm both.1.2.2 both.2.2.2⟩
  · intro equal
    exact ⟨⟨equal.1, equal.2.1, Int.le_of_eq equal.2.2⟩, equal.2.1, equal.1, Int.le_of_eq equal.2.2.symm⟩

end Value

namespace Binary64

theorem position_eq_infinite {x : Binary64} {neg : Bool} (number : x ≠ .nan)
    (equal : x.position = (infinite neg).position) : x = .infinite neg := by
  have positive := unitLimit_pos
  cases x with
  | nan => exact absurd rfl number
  | infinite sign =>
    cases sign <;> cases neg <;> simp only [position, signed] at equal ⊢ <;> simp at equal ⊢ <;> omega
  | finite sign units fits =>
    have below := fits.1
    cases sign <;> cases neg <;> simp only [position, signed] at equal <;> simp at equal <;> omega

end Binary64

namespace Loose

theorem same_infinite (x : Binary64) (neg : Bool) :
    (Value.float x).same (.float (.infinite neg)) = decide (x = .infinite neg) := by
  rw [Bool.eq_iff_iff, Value.same_float, decide_eq_true_iff]
  constructor
  · intro equal
    exact Binary64.position_eq_infinite equal.1 equal.2.2
  · intro equal
    exact ⟨equal ▸ nofun, nofun, equal ▸ rfl⟩

theorem lowerText_float (range : Range) : lowerText (.float range.lower) = .ok range.lowerText := by
  simp only [lowerText, same_infinite, decide_eq_true_iff, Range.lowerText, boundText]
  split <;> rfl

theorem same_infinity (x : Binary64) :
    (Value.float x).same (.float .infinity) = decide (x = .infinity) :=
  same_infinite x false

theorem upperText_float (range : Range) : upperText (.float range.upper) = .ok range.upperText := by
  simp only [upperText, same_infinity, decide_eq_true_iff, Range.upperText, boundText]
  split <;> rfl

variable (range : Range)

theorem member_start : (ofRange range).member "start" = .ok (.float range.lower) := rfl

theorem member_end : (ofRange range).member "end" = .ok (.float range.upper) := rfl

theorem member_invert : (ofRange range).member "invert" = .ok (.bool range.invert) := rfl

theorem ask_ofRange (operation : String) (other : operation ∉ rangeFields) :
    (ofRange range).ask operation = .ok () := by
  have absent : (ofRange range).fields.get? operation = none := by
    simp only [rangeFields, List.mem_cons, List.not_mem_nil, or_false, not_or] at other
    simp only [ofRange, Value.Fields.get?_cons, Value.Fields.get?_nil, other, if_false]
  simp only [ask, absent]

theorem contains_ofRange (x : Binary64) : (ofRange range).contains (.float x) = .ok (range.contains x) := by
  simp only [contains, ask_ofRange range "contains" (by decide), member_start, member_end,
    bind, Except.bind, Value.lessEqual, Value.isNumber, Value.numberLe, Bool.and_self, if_true,
    Range.contains]
  by_cases below : range.lower ≤ x <;> simp [below]

theorem alerts_ofRange (x : Binary64) : (ofRange range).alerts x = .ok (.bool (range.alerts x)) := by
  simp only [alerts, ask_ofRange range "check" (by decide), contains_ofRange,
    member_invert, bind, Except.bind, Range.alerts, Value.isTruthy]
  by_cases inside : range.contains x = true <;> simp [inside]

theorem spec_ofRange : (ofRange range).spec = .ok range.spec := by
  simp only [spec, ask_ofRange range "to_spec" (by decide), member_start, member_end,
    member_invert, bind, Except.bind, Value.same_zero, lowerText_float, upperText_float, Value.isTruthy,
    Except.map, Range.spec]
  by_cases zero : range.lower.same .zero = true
  · simp only [zero, if_true]
    rfl
  · simp only [zero, if_false, Bool.false_eq_true]
    rfl

theorem condition_ofRange : (ofRange range).condition = .ok range.violation := by
  simp only [condition, member_start, member_end, member_invert, bind, Except.bind, lowerText_float,
    upperText_float, Range.violation]
  rfl

theorem violation_ofRange : (ofRange range).violation = .ok (.text range.violation) := by
  simp only [violation, condition_ofRange]

theorem boundData_float {x : Binary64} : boundData (.float x) = .ok x.asData := rfl

theorem data_ofRange : (ofRange range).data = .ok range.toFields := by
  simp only [data, ask_ofRange range "to_dict" (by decide), member_start, member_end,
    member_invert, spec_ofRange, boundData_float, bind, Except.bind, Range.toFields]

theorem isShown_ofRange (name : String) (known : name ∈ rangeFields) :
    (ofRange range).isShown name = .ok true := by
  have absent : (ofRange range).fields.get? "__pydantic_fields__" = none := rfl
  simp only [isShown, absent, known, decide_true]

theorem shownFields_ofRange :
    (ofRange range).shownFields (ofRange range).fields =
      .ok ["start=" ++ range.lower.text, "end=" ++ range.upper.text,
        "invert=" ++ (Value.bool range.invert).literal] := by
  simp only [ofRange, shownFields]
  rw [← ofRange, isShown_ofRange range "start" (by decide),
    isShown_ofRange range "end" (by decide), isShown_ofRange range "invert" (by decide)]
  rfl

theorem literal_ofRange : (ofRange range).literal = .ok range.literal := by
  have named := ask_ofRange range "__repr_name__" (by decide)
  have written := ask_ofRange range "__repr_str__" (by decide)
  have listed := ask_ofRange range "__repr_args__" (by decide)
  have computed : (ofRange range).checkComputed = .ok () := rfl
  have extras : shownExtras (ofRange range).extras = .ok [] := rfl
  rw [literal, named, written, listed, computed, shownFields_ofRange]
  simp only [extras, bind, Except.bind, List.append_nil, Range.literal]

end Loose

end AlertRange

import AlertRange.Proofs.DecodedReport

namespace AlertRange

namespace Coercion

theorem number_asData {x : Binary64} (number : x ≠ .nan) : Coercion.number x.asData = .ok x := by
  cases x with
  | nan => exact absurd rfl number
  | finite neg units fits => rfl
  | infinite neg => cases neg <;> rfl

theorem field_of_get? {α : Type} {name : String} {read : Value → Except FieldFault α} {default x : α}
    {fields : Value.Fields} {value : Value} (found : fields.get? name = some value)
    (accepted : read value = .ok x) :
    field name read default fields = .ok x := by
  simp only [field, found, accepted, Except.mapError]

end Coercion

namespace Range

theorem ofFields_of_get? {range : Range} {fields : Value.Fields}
    (start : fields.get? "start" = some range.lower.asData) (stop : fields.get? "end" = some range.upper.asData)
    (invert : fields.get? "invert" = some (.bool range.invert)) : ofFields fields = .ok range := by
  rw [ofFields_eq_ok_iff]
  refine ⟨Coercion.field_of_get? start ?_, Coercion.field_of_get? stop ?_, Coercion.field_of_get? invert rfl⟩
  · exact Coercion.number_asData range.lower_ne_nan
  · exact Coercion.number_asData range.upper_ne_nan

theorem ofFields_toFields (range : Range) : ofFields range.toFields = .ok range := by
  apply ofFields_of_get? <;> simp [toFields, Value.Fields.get?_cons]

end Range

namespace Report

theorem ofFields_rangeFields (range : Range) : Range.ofFields (rangeFields range) = .ok range := by
  apply Range.ofFields_of_get? <;> simp [rangeFields, Range.toFields, Value.Fields.get?_cons]

theorem get?_spec (range : Range) : (rangeFields range).get? "spec" = some (.text range.spec) := by
  simp [rangeFields, Range.toFields, Value.Fields.get?_cons]

theorem get?_violation (range : Range) : (rangeFields range).get? "violation" = some (.text range.violation) := by
  simp [rangeFields, Range.toFields, Value.Fields.get?_cons]

theorem exists_decoded {text : String} {range : Range} (accepted : Spec.parse text = .ok range) {mode : Mode}
    (json : mode.json = true) :
    ∃ (report : Report) (shown : String) (top : Value.Fields), (ofSpec text).outcome = .ok report ∧
      report.format mode = .ok shown ∧ Json.read? shown = some (.record top) ∧
      top.get? "data" = some (.record (rangeFields range)) := by
  have made : (ofSpec text).outcome = .ok (success parseOp (rangeFields range) []) := by
    rw [ofSpec_of_ok accepted]
  obtain ⟨shown, written, read⟩ := read?_of_returned (.ofSpec text made)
  refine ⟨_, shown, _, made, ?_, read, ?_⟩
  · rw [format_of_json json, written]
  · simp [Value.Fields.get?_cons, success]

/-- The data of a range makes that range again. Of a text that is accepted as the range, so does the data of
the report in JSON, with all that it holds besides: a text that is accepted as the same range, and the words
for its alerts. -/
theorem fields_round_trip (range : Range) :
    (Range.ofFields range.toFields = .ok range ∧ range.same range = true) ∧
    ∀ text mode, Spec.parse text = .ok range → mode.json = true →
      ∃ (report : Report) (shown : String) (top fields : Value.Fields) (name : String) (named : Range),
        (ofSpec text).outcome = .ok report ∧ report.format mode = .ok shown ∧
        Json.read? shown = some (.record top) ∧ top.get? "data" = some (.record fields) ∧
        Range.ofFields fields = .ok range ∧
        fields.get? "spec" = some (.text name) ∧ Spec.parse name = .ok named ∧ named.same range = true ∧
        fields.get? "violation" = some (.text range.violation) ∧ named.violation = range.violation := by
  refine ⟨⟨range.ofFields_toFields, range.same_refl⟩, ?_⟩
  intro text mode accepted json
  obtain ⟨report, shown, top, made, written, read, data⟩ := exists_decoded accepted json
  obtain ⟨named, parsed, same, -⟩ := Spec.exists_parse_spec range
  exact ⟨report, shown, top, rangeFields range, range.spec, named, made, written, read, data,
    ofFields_rangeFields range,
    get?_spec range, parsed, same, get?_violation range, Range.violation_congr same⟩

end Report

end AlertRange

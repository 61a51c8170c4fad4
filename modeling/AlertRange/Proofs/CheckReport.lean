import AlertRange.Proofs.SpecDiagnosis
import AlertRange.Report.Inquiry

namespace AlertRange

namespace Value

/-- A whole number or a double. A truth value is neither. -/
inductive Checkable : Value → Prop
  | int (n : Int) : Checkable (.int n)
  | float (x : Binary64) : Checkable (.float x)

instance : DecidablePred Checkable
  | .int n => .isTrue (.int n)
  | .float x => .isTrue (.float x)
  | .null | .bool _ | .text _ | .list _ | .record _ => .isFalse nofun

theorem checkedNumber_of_checkable {value : Value} (number : value.Checkable) :
    ∃ x, value.checkedNumber = .ok x := by
  cases number with
  | int n => exact ⟨_, rfl⟩
  | float x => exact ⟨_, rfl⟩

theorem checkedNumber_of_not_checkable {value : Value} (other : ¬ value.Checkable) :
    value.checkedNumber = .error (.notNumber value) := by
  cases value with
  | int n => exact absurd (.int n) other
  | float x => exact absurd (.float x) other
  | _ => rfl

end Value

namespace Range

def raises (range : Range) (value : Value) : Bool :=
  (range.check value).toOption.getD false

theorem check_of_checkable (range : Range) {value : Value} (number : value.Checkable) :
    range.check value = .ok (range.raises value) := by
  obtain ⟨x, checked⟩ := Value.checkedNumber_of_checkable number
  rw [raises, check, checked]
  rfl

theorem check_of_not_checkable (range : Range) {value : Value} (other : ¬ value.Checkable) :
    range.check value = .error (.notNumber value) := by
  rw [check, Value.checkedNumber_of_not_checkable other]
  rfl

end Range

namespace Report

/-- How a number is reported: as it is, or by a word if it has no digits. -/
inductive Reported : Value → Value → Prop
  | int (n : Int) : Reported (.int n) (.int n)
  | finite (neg : Bool) (units : Nat) (fits : Fits units) :
      Reported (.float (.finite neg units fits)) (.float (.finite neg units fits))
  | infinity : Reported (.float (.infinite false)) (.text "inf")
  | negativeInfinity : Reported (.float (.infinite true)) (.text "-inf")
  | nan : Reported (.float .nan) (.text "nan")

theorem reported_valueData {value : Value} (number : value.Checkable) : Reported value (valueData value) := by
  cases number with
  | int n => exact .int n
  | float x =>
    cases x with
    | nan => exact .nan
    | infinite neg =>
      cases neg with
      | false => exact .infinity
      | true => exact .negativeInfinity
    | finite neg units fits => exact .finite neg units fits

variable (spec : String) (range : Range)

def itemOf (value : Value) : Item :=
  ⟨value, range.raises value⟩

def recordOf (value : Value) : LogRecord :=
  checkedRecord spec value (range.raises value)

theorem judge_append {before : List Value} (numbers : ∀ v ∈ before, v.Checkable) (rest : List Value) :
    judge spec range (before ++ rest) =
      ((judge spec range rest).1.map (before.map (itemOf range) ++ ·),
        before.map (recordOf spec range) ++ (judge spec range rest).2) := by
  induction before with
  | nil =>
    rw [List.nil_append]
    cases judge spec range rest with
    | mk items records => cases items <;> rfl
  | cons value before ih =>
    have first := range.check_of_checkable (numbers value List.mem_cons_self)
    have later := ih fun v member => numbers v (List.mem_cons_of_mem value member)
    rw [List.cons_append, judge, first, later]
    cases judge spec range rest with
    | mk items records => cases items <;> rfl

theorem judge_of_checkable {values : List Value} (numbers : ∀ v ∈ values, v.Checkable) :
    judge spec range values = (.ok (values.map (itemOf range)), values.map (recordOf spec range)) := by
  have judged := judge_append spec range numbers []
  rwa [List.append_nil, judge, Except.map, List.append_nil, List.append_nil] at judged

theorem judge_of_not_checkable {offending : Value} (other : ¬ offending.Checkable) (after : List Value) :
    judge spec range (offending :: after) = (.error (.notNumber offending), []) := by
  rw [judge, range.check_of_not_checkable other]

theorem countP_itemOf (values : List Value) :
    alertCount (values.map (itemOf range)) = values.countP range.raises := by
  rw [alertCount, List.countP_map]
  rfl

theorem isNaN_iff {value : Value} : isNaN value = true ↔ value = .float .nan := by
  cases value with
  | float x => simp [isNaN, Binary64.isNaN_iff]
  | _ => simp [isNaN]

theorem warningsFor_of_mem {values : List Value} (member : .float .nan ∈ values) :
    warningsFor values = [nanWarning] := by
  rw [warningsFor, if_pos (List.any_eq_true.mpr ⟨_, member, isNaN_iff.mpr rfl⟩)]

theorem warningsFor_of_not_mem {values : List Value} (absent : .float .nan ∉ values) :
    warningsFor values = [] := by
  rw [warningsFor, if_neg]
  intro found
  obtain ⟨value, member, nan⟩ := List.any_eq_true.mp found
  exact absent (isNaN_iff.mp nan ▸ member)

/-! ### The report -/

theorem ofSpec_of_error {spec : String} {error : SpecError} (refused : Spec.parse spec = .error error) :
    ofSpec spec = ⟨.ok (failed parseOp (failureOf error)), [parseFailedRecord spec error]⟩ := by
  rw [ofSpec, withRange, refused]

theorem ofSpec_of_ok {spec : String} {range : Range} (read : Spec.parse spec = .ok range) :
    ofSpec spec = ⟨.ok (success parseOp (rangeFields range) []), [parsedRecord spec range]⟩ := by
  rw [ofSpec, withRange, read]

theorem ofCheck_of_error {spec : String} {error : SpecError} (refused : Spec.parse spec = .error error)
    (values : List Value) :
    ofCheck spec values = ⟨.ok (failed checkOp (failureOf error)), [parseFailedRecord spec error]⟩ := by
  rw [ofCheck, withRange, refused]

theorem ofCheck_of_checkable {spec : String} {range : Range} (read : Spec.parse spec = .ok range)
    {values : List Value} (numbers : ∀ v ∈ values, v.Checkable) :
    ofCheck spec values =
      ⟨.ok (success checkOp (checkFields range (values.map (itemOf range))) (warningsFor values)),
        parsedRecord spec range :: values.map (recordOf spec range)⟩ := by
  rw [ofCheck, withRange, read]
  simp only [judge_of_checkable spec range numbers, Except.map]

theorem ofCheck_of_not_checkable {spec : String} {range : Range} (read : Spec.parse spec = .ok range)
    {before : List Value} (numbers : ∀ v ∈ before, v.Checkable) {offending : Value} (other : ¬ offending.Checkable)
    (after : List Value) :
    ofCheck spec (before ++ offending :: after) =
      ⟨.error (.notNumber offending), parsedRecord spec range :: before.map (recordOf spec range)⟩ := by
  rw [ofCheck, withRange, read]
  simp only [judge_append spec range numbers, judge_of_not_checkable spec range other, Except.map, List.append_nil]

/-- What a report tells of an error: the parts of a fault of a bound, and of one of the order none but the text. -/
inductive Detailed : SpecError → Value.Fields → Prop
  | bound {spec side token reason} :
      Detailed ⟨spec, .bound side token reason⟩ [("spec", .text spec), ("token", token), ("reason", reason)]
  | order {spec start stop} : Detailed ⟨spec, .order start stop⟩ [("spec", .text spec)]

/-- A report that tells an error and nothing else. -/
structure Tells (error : SpecError) (report : Report) : Prop where
  failed : report.ok = false
  data : report.data = []
  warnings : report.warnings = []
  failure : ∃ failure, report.failure = some failure ∧ failure.code = error.code ∧
    failure.message = error.message ∧
    Detailed error failure.detail

theorem tells_failed {spec : String} {error : SpecError} (refused : Spec.parse spec = .error error) (op : String) :
    Tells error (failed op (failureOf error)) := by
  refine ⟨rfl, rfl, rfl, failureOf error, rfl, rfl, rfl, ?_⟩
  obtain ⟨core, fault⟩ := error
  rcases Spec.fault_cases_of_parse refused with ⟨side, token, reason, rfl⟩ | ⟨start, stop, rfl⟩
  · exact .bound
  · exact .order

theorem severity_of_debug (values : List Value) :
    (parsedRecord spec range :: values.map (recordOf spec range)).map LogRecord.severity =
      List.replicate (values.length + 1) .debug := by
  have constant : LogRecord.severity ∘ recordOf spec range = fun _ => .debug := rfl
  rw [List.map_cons, List.map_map, constant, List.map_const', List.replicate_succ]
  rfl

/-- One item for each value: what is reported of it, and its verdict. -/
def Itemized (range : Range) (values items : List Value) : Prop :=
  List.Forall₂ (fun value item => ∃ shown alert, item = .record [("value", shown), ("alert", .bool alert)] ∧
    Reported value shown ∧ range.check value = .ok alert) values items

theorem itemized_itemOf {values : List Value} (numbers : ∀ v ∈ values, v.Checkable) :
    Itemized range values ((values.map (itemOf range)).map Item.asData) := by
  rw [Itemized, List.map_map, List.forall₂_map_right_iff, List.forall₂_same]
  intro value member
  have number := numbers value member
  exact ⟨_, _, rfl, reported_valueData number, range.check_of_checkable number⟩

theorem ofCheck_report {spec : String} {range : Range} (read : Spec.parse spec = .ok range) {values : List Value}
    (numbers : ∀ v ∈ values, v.Checkable) :
    ∃ report items, (ofCheck spec values).outcome = .ok report ∧
      (report.ok = true ∧ report.op = checkOp ∧ report.failure.isNone) ∧
      report.data.get? "items" = some (.list items) ∧ Itemized range values items ∧
      report.data.get? "count" = some (.int values.length) ∧
      report.data.get? "alert_count" = some (.int (values.countP range.raises)) ∧
      (.float .nan ∈ values → report.warnings.length = 1) ∧ (.float .nan ∉ values → report.warnings = []) := by
  rw [ofCheck_of_checkable read numbers]
  refine ⟨_, _, rfl, ⟨rfl, rfl, rfl⟩, rfl, itemized_itemOf range numbers, ?_, ?_, ?_, warningsFor_of_not_mem⟩
  · simp [success, checkFields, Value.Fields.get?_cons]
  · simp [success, checkFields, Value.Fields.get?_cons, countP_itemOf]
  · intro member
    rw [success, warningsFor_of_mem member]
    rfl

/-- Values that are not all numbers have a first one that is none. -/
theorem exists_first_offending {values : List Value} (mixed : ¬ ∀ v ∈ values, v.Checkable) :
    ∃ before offending after, values = before ++ offending :: after ∧ (∀ v ∈ before, v.Checkable) ∧
      ¬ offending.Checkable := by
  have found : (values.find? fun v => !decide v.Checkable).isSome := by
    rw [List.find?_isSome]
    simpa using mixed
  obtain ⟨offending, found⟩ := Option.isSome_iff_exists.mp found
  obtain ⟨other, before, after, split, numbers⟩ := List.find?_eq_some_iff_append.mp found
  exact ⟨before, offending, after, split, by simpa using numbers, by simpa using other⟩

/-- A text that cannot be read fails the check with its error, whatever the values. Otherwise numbers are all
reported, in order, each with its verdict, and counted; and the first value that is no number is the error of
the check. The log has a warning for a text that cannot be read, or a record for the range and one for each
value that was judged. -/
theorem ofCheck_cases (spec : String) (values : List Value) :
    (∀ error, Spec.parse spec = .error error →
      (∃ report, (ofCheck spec values).outcome = .ok report ∧ report.op = checkOp ∧ Tells error report) ∧
        (ofCheck spec values).log.map LogRecord.severity = [.warning]) ∧
    ∀ range, Spec.parse spec = .ok range →
      ((∀ v ∈ values, v.Checkable) →
        (∃ report items, (ofCheck spec values).outcome = .ok report ∧
          (report.ok = true ∧ report.op = checkOp ∧ report.failure.isNone) ∧
          report.data.get? "items" = some (.list items) ∧ Itemized range values items ∧
          report.data.get? "count" = some (.int values.length) ∧
          report.data.get? "alert_count" = some (.int (values.countP range.raises)) ∧
          (.float .nan ∈ values → report.warnings.length = 1) ∧ (.float .nan ∉ values → report.warnings = [])) ∧
        (ofCheck spec values).log.map LogRecord.severity = List.replicate (values.length + 1) .debug) ∧
      ((¬ ∀ v ∈ values, v.Checkable) →
        ∃ before offending after, values = before ++ offending :: after ∧ (∀ v ∈ before, v.Checkable) ∧
          ¬ offending.Checkable ∧ (ofCheck spec values).outcome = .error (.notNumber offending) ∧
          (ofCheck spec values).log.map LogRecord.severity = List.replicate (before.length + 1) .debug) := by
  refine ⟨?_, fun range read => ⟨?_, ?_⟩⟩
  · intro error refused
    rw [ofCheck_of_error refused]
    exact ⟨⟨_, rfl, rfl, tells_failed refused checkOp⟩, rfl⟩
  · intro numbers
    refine ⟨ofCheck_report read numbers, ?_⟩
    rw [ofCheck_of_checkable read numbers]
    exact severity_of_debug spec range values
  · intro mixed
    obtain ⟨before, offending, after, split, numbers, other⟩ := exists_first_offending mixed
    refine ⟨before, offending, after, split, numbers, other, ?_⟩
    rw [split, ofCheck_of_not_checkable read numbers other]
    exact ⟨rfl, severity_of_debug spec range before⟩

end Report

end AlertRange

import AlertRange.Proofs.WholeChecks
import AlertRange.Report.Steps

namespace AlertRange

namespace Report

theorem failureInSteps_eq (error : SpecError) : failureInSteps error = failureOf error := by
  obtain ⟨spec, fault⟩ := error
  cases fault with
  | other message => rfl
  | bound side token reason => rfl
  | order start stop => rfl

def Inquiry.inSteps (inquiry : Inquiry) : Except Stop Report × List LogRecord :=
  (inquiry.outcome.mapError fun error => .check (.refused error), inquiry.log)

theorem withRangeInSteps_eq (op spec : String) {steps : Range → Except Stop Report × List LogRecord}
    {go : Range → Inquiry} (agree : ∀ range, steps range = (go range).inSteps) :
    withRangeInSteps op spec steps = (withRange op spec go).inSteps := by
  rw [withRangeInSteps, withRange, Spec.parseInSteps_eq]
  cases Spec.parse spec with
  | error error =>
    -- only a fault of the text is left once the steps are the reading, and that one is caught
    simp only [Except.mapError, failureInSteps_eq]
    rfl
  | ok range =>
    simp only [Except.mapError, agree]
    rfl

theorem ofSpecInSteps_eq (spec : String) : ofSpecInSteps spec = (ofSpec spec).inSteps :=
  withRangeInSteps_eq parseOp spec fun _ => rfl

variable {spec : String} {range : Range}

theorem checkInSteps_eq (range : Range) (value : Value) :
    range.checkInSteps value = (range.check value).mapError .refused :=
  Checker.runInSteps_eq .number range value

theorem warningsFor_cons (value : Value) (rest : List Value) :
    warningsFor (value :: rest) = if isNaN value then [nanWarning] else warningsFor rest := by
  cases nan : isNaN value <;> simp [warningsFor, nan]

def Gathered.after (gathered : Gathered) (rest : List Value) (items : List Item) : Gathered where
  items := gathered.items ++ items
  warnings := gathered.warnings ++ if gathered.warnings.isEmpty then warningsFor rest else []

theorem Gathered.add_after (gathered : Gathered) (value : Value) (alert : Bool) (rest : List Value)
    (items : List Item) :
    (gathered.add value alert).after rest items = gathered.after (value :: rest) (⟨value, alert⟩ :: items) := by
  obtain ⟨before, warnings⟩ := gathered
  rw [after, after, add, warningsFor_cons]
  cases isNaN value <;> cases warnings <;> simp

/-- Values are judged one by one, and the first NaN of all warns. -/
theorem gather_eq (gathered : Gathered) (values : List Value) :
    gather spec range gathered values =
      (((judge spec range values).1.map (gathered.after values)).mapError .refused,
        (judge spec range values).2) := by
  -- what is gathered grows from value to value, so the induction is over the values for all of it
  induction values generalizing gathered with
  | nil => simp [gather, judge, Except.map, Except.mapError, Gathered.after, warningsFor]
  | cons value rest ih =>
    rw [gather, judge, checkInSteps_eq]
    cases range.check value with
    | error error => rfl
    | ok alert =>
      simp only [Except.mapError, ih]
      cases (judge spec range rest).1 with
      | error error => rfl
      | ok items => simp only [Except.map, Gathered.add_after]

theorem ofCheckInSteps_eq (spec : String) (values : List Value) :
    ofCheckInSteps spec values = (ofCheck spec values).inSteps := by
  apply withRangeInSteps_eq
  intro range
  simp only [gather_eq, Inquiry.inSteps]
  cases (judge spec range values).1 <;> rfl

/-- The report on a range is always made: it fails on the texts that cannot be read, and so does the report on
a check, whatever the values, with the same failure and nothing else. Of other texts the report on a check of
numbers tells the same range, in the same words. Made in steps, both reports are the same; no other error is
left uncaught. -/
theorem reports_agree (spec : String) (values : List Value) :
    (ofSpecInSteps spec = (ofSpec spec).inSteps ∧ ofCheckInSteps spec values = (ofCheck spec values).inSteps) ∧
    ∃ report, (ofSpec spec).outcome = .ok report ∧ report.op = parseOp ∧
      (report.ok = false ↔ ∃ error, Spec.parse spec = .error error) ∧
      (∀ error, Spec.parse spec = .error error →
        Tells error report ∧ (ofCheck spec values).outcome = .ok { report with op := checkOp }) ∧
      ∀ range, Spec.parse spec = .ok range → (∀ v ∈ values, v.Checkable) →
        ∃ checked start stop invert name violation, (ofCheck spec values).outcome = .ok checked ∧
          checked.ok = true ∧
          report.data =
            [("start", start), ("end", stop), ("invert", invert), ("spec", name), ("violation", violation)] ∧
          checked.data.get? "range" =
            some (.record [("start", start), ("end", stop), ("invert", invert), ("spec", name)]) ∧
          checked.data.get? "violation" = some violation := by
  refine ⟨⟨ofSpecInSteps_eq spec, ofCheckInSteps_eq spec values⟩, ?_⟩
  cases parsed : Spec.parse spec with
  | error error =>
    rw [ofSpec_of_error parsed, ofCheck_of_error parsed]
    refine ⟨_, rfl, rfl, iff_of_true rfl ⟨error, rfl⟩, ?_, nofun⟩
    intro found same
    cases same
    exact ⟨tells_failed parsed parseOp, rfl⟩
  | ok range =>
    rw [ofSpec_of_ok parsed]
    refine ⟨_, rfl, rfl, iff_of_false nofun nofun, nofun, ?_⟩
    intro found same numbers
    cases same
    rw [ofCheck_of_checkable parsed numbers]
    refine ⟨_, _, _, _, _, _, rfl, rfl, rfl, ?_, ?_⟩
    · simp [success, checkFields, Value.Fields.get?_cons, Range.toFields]
    · simp [success, checkFields, Value.Fields.get?_cons]

end Report

end AlertRange

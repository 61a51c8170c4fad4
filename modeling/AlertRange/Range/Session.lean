import AlertRange.Range.Fields
import AlertRange.Range.Loose

namespace AlertRange

inductive Request where
  | read (spec : String)
  | make (fields : Value.Fields)
  | check (value : Value)
  | checkWhole (value : Value)
  | checkWhole32 (value : Value)
  | contains (value : Value)
  | spec
  | violation
  | literal
  | fields
  /-- Whether the canonical text reads back as the range. -/
  | reread
  | equals (spec : String)
  | countDistinct (specs : List String)

inductive Reply where
  | range (range : Range)
  | loose (view : Loose.View)
  | truth (value : Bool)
  | value (value : Value)
  | text (value : String)
  | fields (value : Value.Fields)
  | count (value : Nat)

inductive StepError where
  | spec (error : SpecError)
  | check (error : CheckError)
  | fields (errors : List FieldError)
  | assignment (error : AssignmentError)
  | loose (error : LooseError)

namespace StepError

/-- Where a result is wrapped, it is no range unless what wraps it makes one. -/
theorem map_ne_range {α ε δ : Type} (e : Except ε α) (f : α → Reply) (g : ε → δ)
    (ne : ∀ a made, f a ≠ .range made) (made : Range) :
    ((e.map f).mapError g) ≠ .ok (.range made) := by
  cases e with
  | error e => exact nofun
  | ok a =>
    intro h
    exact ne a made (Except.ok.inj h)

theorem bind_ne_range {α : Type} (e : Except StepError α) (f : α → Except StepError Reply)
    (made : Range) (ne : ∀ a, f a ≠ .ok (.range made)) : (e >>= f) ≠ .ok (.range made) := by
  cases e with
  | error e => exact nofun
  | ok a => exact ne a

end StepError

def Range.parseAll : List String → Except SpecError (List Range)
  | [] => .ok []
  | text :: rest => (Spec.parse text).bind fun range => (parseAll rest).map (range :: ·)

namespace Request

def answer? : Request → Option (Except StepError Reply)
  | .read text => some (((Spec.parse text).map .range).mapError .spec)
  | .make given => some (((Range.ofFields given).map .range).mapError .fields)
  | .countDistinct specs =>
    some (((Range.parseAll specs).map fun ranges => .count (Range.countDistinct ranges)).mapError .spec)
  | _ => none

def isQuery : Request → Bool
  | .read _ => false
  | .make _ => false
  | _ => true

end Request

namespace Range

def answer (range : Range) : Request → Except StepError Reply
  | .check value => ((range.check value).map .truth).mapError .check
  | .checkWhole value => ((range.checkWhole value).map .truth).mapError .check
  | .checkWhole32 value => ((range.checkWhole32 value).map .truth).mapError .check
  | .contains value => ((range.contains? value).map .truth).mapError .check
  | .violation => .ok (.text range.violation)
  | .literal => .ok (.text range.literal)
  | .fields => .ok (.fields range.toFields)
  | .reread => ((Spec.parse range.spec).map fun other => .truth (other.same range)).mapError .spec
  | .equals text => ((Spec.parse text).map fun other => .truth (range.same other)).mapError .spec
  | _ => .ok (.text range.spec)

theorem answer_ne_range (range : Range) (request : Request) (made : Range) :
    range.answer request ≠ .ok (.range made) := by
  cases request
  case violation | literal | fields | spec | read | make | countDistinct =>
    intro h
    cases Except.ok.inj h
  all_goals exact StepError.map_ne_range _ _ _ (by intro _ _ equal; cases equal) made

end Range

namespace Loose

def compare (loose : Loose) (text : String) : Except StepError Reply := do
  let other ← (Spec.parse text).mapError .spec
  .ok (.truth (← (loose.sameAs other).mapError .loose))

def checkNumber (loose : Loose) (x : Binary64) : Except StepError Reply :=
  ((loose.alerts x).map .value).mapError .loose

def checkAs (loose : Loose) (operation : String) (number : Except CheckError Binary64) :
    Except StepError Reply := do
  (loose.ask operation).mapError .loose
  loose.checkNumber (← number.mapError .check)

def answer (loose : Loose) : Request → Except StepError Reply
  | .check value => loose.checkAs "check" value.checkedNumber
  | .checkWhole value => loose.checkAs "check_int" value.checkedWhole
  | .checkWhole32 value => loose.checkAs "check_int32" value.checkedWhole32
  | .contains value => ((loose.contains value).map .truth).mapError .loose
  | .violation => (loose.violation.map .value).mapError .loose
  | .literal => (loose.literal.map .text).mapError .loose
  | .fields => (loose.data.map .fields).mapError .loose
  | .reread => do loose.compare (← loose.spec.mapError .loose)
  | .equals text => loose.compare text
  | _ => (loose.spec.map .text).mapError .loose

theorem compare_ne_range (loose : Loose) (text : String) (made : Range) :
    loose.compare text ≠ .ok (.range made) :=
  StepError.bind_ne_range _ _ made fun _ => StepError.bind_ne_range _ _ made fun _ equal =>
    nomatch Except.ok.inj equal

theorem checkAs_ne_range (loose : Loose) (operation : String) (number : Except CheckError Binary64)
    (made : Range) : loose.checkAs operation number ≠ .ok (.range made) :=
  StepError.bind_ne_range _ _ made fun _ => StepError.bind_ne_range _ _ made fun _ =>
    StepError.map_ne_range _ _ _ (by intro _ _ equal; cases equal) made

theorem answer_ne_range (loose : Loose) (request : Request) (made : Range) :
    loose.answer request ≠ .ok (.range made) := by
  cases request
  case check | checkWhole | checkWhole32 => exact checkAs_ne_range _ _ _ made
  case equals => exact compare_ne_range _ _ made
  case reread => exact StepError.bind_ne_range _ _ made fun _ => compare_ne_range _ _ made
  all_goals exact StepError.map_ne_range _ _ _ (by intro _ _ equal; cases equal) made

end Loose

inductive Current where
  | range (range : Range)
  | loose (loose : Loose)

inductive Step where
  | ask (request : Request)
  | assign (field : String) (value : Value)

namespace Current

def answer (current : Current) (request : Request) : Except StepError Reply :=
  match request.answer?, current with
  | some answer, _ => answer
  | none, .range plain => plain.answer request
  | none, .loose held => held.answer request

def after (current : Current) : Except StepError Reply → Current
  | .ok (.range made) => .range made
  | _ => current

def toLoose : Current → Loose
  | .range plain => .ofRange plain
  | .loose held => held

def assign (current : Current) (field : String) (value : Value) : Except StepError Loose := do
  (current.toLoose.checkAssignable field).mapError .loose
  let change ← (assigned "Range" field value).mapError .assignment
  .ok (current.toLoose.assign change)

def step (current : Current) : Step → Current × Except StepError Reply
  | .ask request => (current.after (current.answer request), current.answer request)
  | .assign field value =>
    match current.assign field value with
    | .ok held => (.loose held, (held.view.map .loose).mapError .loose)
    | .error error => (current, .error error)

def run (current : Current) : List Step → List (Except StepError Reply)
  | [] => []
  | s :: rest => (current.step s).2 :: (current.step s).1.run rest

theorem step_of_error {current : Current} {request : Request} {e : StepError}
    (failed : current.answer request = .error e) : (current.step (.ask request)).1 = current := by
  simp only [step, failed, after]

theorem answer_of_isQuery {current : Current} {request : Request} (query : request.isQuery = true)
    (made : Range) : current.answer request ≠ .ok (.range made) := by
  unfold answer
  split
  · next answer found =>
    cases request <;> simp only [Request.isQuery, Bool.false_eq_true] at query <;>
      simp only [Request.answer?, reduceCtorEq, Option.some.injEq] at found
    subst found
    exact StepError.map_ne_range _ _ _ (by intro _ _ equal; cases equal) made
  · exact Range.answer_ne_range _ _ made
  · exact Loose.answer_ne_range _ _ made

theorem step_of_isQuery {current : Current} {request : Request} (query : request.isQuery = true) :
    (current.step (.ask request)).1 = current := by
  change current.after (current.answer request) = current
  unfold after
  split
  · next made answer => exact absurd answer (answer_of_isQuery query made)
  · rfl

/-- A range does not change by assignment to a field. -/
theorem step_assign_of_field (plain : Range) {field : String} (value : Value)
    (proper : field.toList.head? ≠ some '_') :
    (Current.range plain).step (.assign field value) =
      (.range plain, .error (.assignment (.frozen field))) := by
  simp only [step, assign, toLoose, assigned_of_field proper]
  rfl

end Current

end AlertRange

import AlertRange.Proofs.DecodedReport
import AlertRange.Proofs.TemplateText
import AlertRange.Proofs.Unquoting

namespace AlertRange.Report

open Template (Fills)
open Text (Within isAscii isPrintable showable_isPrintable)

/-! ### Lines -/

def OnOneLine (text : String) : Prop :=
  Within (fun c => isPrintable c = true ∧ Screen.isLineBreak c = false) text

theorem not_isLineBreak_of_isPrintable {c : Char} (printable : isPrintable c = true) :
    Screen.isLineBreak c = false := by
  rw [Bool.eq_false_iff]
  intro ends
  have code : c.toNat < 0x20 ∨ c.toNat = 0x85 ∨ c.toNat = 0x2028 ∨ c.toNat = 0x2029 := by
    simp only [Screen.isLineBreak, Text.covers, List.any_cons, List.any_nil, Bool.or_eq_true, Bool.and_eq_true,
      decide_eq_true_eq, Bool.or_false] at ends
    omega
  have hidden (d : Char) (blank : isPrintable d = false) : c.toNat ≠ d.toNat := by
    intro same
    rw [Char.toNat_inj.mp same, blank] at printable
    cases printable
  -- control characters are not printable by the test of ASCII, the three others by the table
  rcases code with control | next | line | paragraph
  · rw [isPrintable, if_pos (by omega), decide_eq_true_eq] at printable
    omega
  · exact hidden '\u0085' (by decide +kernel) next
  · exact hidden '\u2028' (by decide +kernel) line
  · exact hidden '\u2029' (by decide +kernel) paragraph

theorem onOneLine_of_printable {text : String} (printable : Within (isPrintable · = true) text) : OnOneLine text :=
  printable.mono fun _ shown => ⟨shown, not_isLineBreak_of_isPrintable shown⟩

/-! ### Records -/

inductive Logged (spec : String) (values : List Value) : LogRecord → Prop
  | refused {error : SpecError} (refused : Spec.parse spec = .error error) :
      Logged spec values (parseFailedRecord spec error)
  | read {range : Range} (read : Spec.parse spec = .ok range) : Logged spec values (parsedRecord spec range)
  | checked {range : Range} {value : Value} (read : Spec.parse spec = .ok range) (member : value ∈ values)
      (number : value.Checkable) : Logged spec values (recordOf spec range value)

variable {spec : String} {values : List Value} {record : LogRecord}

theorem logged_of_ofSpec (member : record ∈ (ofSpec spec).log) : Logged spec values record := by
  cases parsed : Spec.parse spec with
  | error error =>
    rw [ofSpec_of_error parsed] at member
    rw [List.mem_singleton.mp member]
    exact .refused parsed
  | ok range =>
    rw [ofSpec_of_ok parsed] at member
    rw [List.mem_singleton.mp member]
    exact .read parsed

theorem logged_of_recordOf {range : Range} (parsed : Spec.parse spec = .ok range) {before : List Value}
    (begins : before <+: values) (numbers : ∀ v ∈ before, v.Checkable)
    (member : record ∈ parsedRecord spec range :: before.map (recordOf spec range)) :
    Logged spec values record := by
  rcases List.mem_cons.mp member with rfl | checked
  · exact .read parsed
  · obtain ⟨value, inside, rfl⟩ := List.mem_map.mp checked
    exact .checked parsed (begins.subset inside) (numbers value inside)

theorem logged_of_ofCheck (member : record ∈ (ofCheck spec values).log) : Logged spec values record := by
  cases parsed : Spec.parse spec with
  | error error =>
    rw [ofCheck_of_error parsed] at member
    rw [List.mem_singleton.mp member]
    exact .refused parsed
  | ok range =>
    by_cases numbers : ∀ v ∈ values, v.Checkable
    · rw [ofCheck_of_checkable parsed numbers] at member
      exact logged_of_recordOf parsed (List.prefix_refl values) numbers member
    · obtain ⟨before, offending, after, split, numbers, other⟩ := exists_first_offending numbers
      rw [split, ofCheck_of_not_checkable parsed numbers other] at member
      exact logged_of_recordOf parsed (split ▸ List.prefix_append before _) numbers member

section Messages

variable (spec : String)

theorem message?_parseFailedRecord (error : SpecError) :
    (parseFailedRecord spec error).message? =
      some ("Range parse failed for " ++ Text.quoted spec ++ ": " ++ error.message) := by
  have template : "Range parse failed for %r: %s".toList =
      "Range parse failed for ".toList ++ '%' :: 'r' :: (": ".toList ++ ['%', 's']) := by decide
  have told : Fills (": ".toList ++ ['%', 's']) [.text error.message] (": ".toList ++ error.message.toList) :=
    .letters (by decide) (.last (Value.writable_text error.message))
  refine Template.text?_of_fills template ?_
  simp only [String.toList_append, List.append_assoc]
  exact .letters (by decide) (.literal (Value.writable_text spec) told)

theorem message?_parsedRecord (range : Range) :
    (parsedRecord spec range).message? =
      some ("Parsed range " ++ Text.quoted spec ++ " as " ++ range.violation) := by
  have template : "Parsed range %r as %s".toList =
      "Parsed range ".toList ++ '%' :: 'r' :: (" as ".toList ++ ['%', 's']) := by decide
  have told : Fills (" as ".toList ++ ['%', 's']) [.text range.violation]
    (" as ".toList ++ range.violation.toList) :=
    .letters (by decide) (.last (Value.writable_text range.violation))
  refine Template.text?_of_fills template ?_
  simp only [String.toList_append, List.append_assoc]
  exact .letters (by decide) (.literal (Value.writable_text spec) told)

theorem checkedTemplate_toList : "Checked %s against %r: alert=%s".toList =
    "Checked ".toList ++ '%' :: 's' :: (" against ".toList ++ '%' :: 'r' ::
      (": alert=".toList ++ ['%', 's'])) := by
  decide

theorem message?_checkedRecord {value : Value} (writable : value.Writable) (alert : Bool) :
    (checkedRecord spec value alert).message? =
      some ("Checked " ++ value.display ++ " against " ++ Text.quoted spec ++ ": alert=" ++
        (if alert then "True" else "False")) := by
  have verdict : (if alert then "True" else "False") = (Value.bool alert).display := by cases alert <;> rfl
  have told : Fills (": alert=".toList ++ ['%', 's']) [.bool alert]
    (": alert=".toList ++ (Value.bool alert).display.toList) :=
    .letters (by decide) (.last (Value.writable_bool alert))
  have against : Fills (" against ".toList ++ '%' :: 'r' :: (": alert=".toList ++ ['%', 's']))
    [.text spec, .bool alert] _ :=
    .letters (by decide) (.literal (Value.writable_text spec) told)
  refine Template.text?_of_fills checkedTemplate_toList ?_
  simp only [verdict, String.toList_append, List.append_assoc]
  exact .letters (by decide) (.shown writable against)

theorem message?_checkedRecord_of_not_writable {value : Value} (unwritable : ¬ value.Writable) (alert : Bool) :
    (checkedRecord spec value alert).message? = none := by
  obtain ⟨fault, found⟩ := Option.ne_none_iff_exists'.mp unwritable
  change Template.text? "Checked %s against %r: alert=%s" [value, .text spec, .bool alert] = none
  rw [Template.text?, Template.text_of_two, checkedTemplate_toList,
    Template.fill_letters_of_error (by decide) (Template.fill_of_fault found)]
  rfl

end Messages

/-- The severity and the message of what is logged of a text and of values. A number with too many digits
leaves its record without a message. -/
inductive Worded (spec : String) (values : List Value) : Severity → Option String → Prop
  | refused {error : SpecError} (refused : Spec.parse spec = .error error) :
      Worded spec values .warning (some ("Range parse failed for " ++ Text.quoted spec ++ ": " ++ error.message))
  | read {range : Range} (read : Spec.parse spec = .ok range) :
      Worded spec values .debug (some ("Parsed range " ++ Text.quoted spec ++ " as " ++ range.violation))
  | checked {range : Range} {value : Value} (read : Spec.parse spec = .ok range) (member : value ∈ values)
      (number : value.Checkable) (writable : value.Writable) :
      Worded spec values .debug
        (some ("Checked " ++ value.display ++ " against " ++ Text.quoted spec ++ ": alert=" ++
        (if range.raises value then "True" else "False")))
  | unwritten {n : Int} (member : .int n ∈ values) (long : 10 ^ digitLimit ≤ n.natAbs) :
      Worded spec values .debug none

theorem Logged.worded (logged : Logged spec values record) :
    Worded spec values record.severity record.message? := by
  cases logged with
  | refused refused =>
    rw [message?_parseFailedRecord]
    exact .refused refused
  | read read =>
    rw [message?_parsedRecord]
    exact .read read
  | @checked range value read member number =>
    by_cases writable : value.Writable
    · rw [recordOf, message?_checkedRecord spec writable]
      exact .checked read member number writable
    · rw [recordOf, message?_checkedRecord_of_not_writable spec writable]
      have long := mt number.writable_iff.mpr writable
      push Not at long
      obtain ⟨n, rfl, long⟩ := long
      exact .unwritten member long

theorem Worded.printable {severity : Severity} {message : String}
    (worded : Worded spec values severity (some message)) :
    Within (isPrintable · = true) message := by
  have literal := showable_isPrintable.literal
  have quoted := Text.printable_quoted spec
  cases worded with
  | refused refused =>
    have opened := (literal "Range parse failed for " (by decide)).append quoted
    exact (opened.append (literal ": " (by decide))).append (Spec.refusal_of_parse refused).printable_message
  | @read range read =>
    have opened := (literal "Parsed range " (by decide)).append quoted
    exact (opened.append (literal " as " (by decide))).append
      (range.ascii_violation.mono showable_isPrintable.ascii)
  | @checked range value read member number writable =>
    have shown := (ascii_display number).mono showable_isPrintable.ascii
    have verdict : Within (isPrintable · = true) (if range.raises value then "True" else "False") := by
      split <;> exact literal _ (by decide)
    have opened := ((literal "Checked " (by decide)).append shown).append (literal " against " (by decide))
    exact ((opened.append quoted).append (literal ": alert=" (by decide))).append verdict

theorem Logged.printable (logged : Logged spec values record) : Within (isPrintable · = true) record.message := by
  have worded := logged.worded
  unfold LogRecord.message
  cases told : record.message? with
  | none => exact showable_isPrintable.literal "" (by decide)
  | some message =>
    rw [told] at worded
    exact worded.printable

/-- The text that could not be read, from what is logged of it. -/
def refusedSpec? (message : String) : Option String :=
  (message.toList.dropPrefix? "Range parse failed for ".toList).bind fun rest =>
    (Text.unquote? rest).map fun (spec, _) => .ofList spec

theorem refusedSpec?_parseFailedRecord (spec : String) (error : SpecError) :
    refusedSpec? (parseFailedRecord spec error).message = some spec := by
  rw [LogRecord.message, message?_parseFailedRecord, Option.getD_some, refusedSpec?, String.append_assoc,
    String.append_assoc, String.toList_append,
    List.dropPrefix?_append_of_beq _ (BEq.refl _), Option.bind_some, String.toList_append, Text.quoted,
    String.toList_ofList, Text.unquote?_quotedChars, Option.map_some]
  exact congrArg some String.ofList_toList

/-! ### Failures -/

theorem message_of_refused {error : SpecError} (refused : Spec.parse spec = .error error) :
    OnOneLine (failureOf error).message :=
  onOneLine_of_printable (Spec.refusal_of_parse refused).printable_message

theorem short_of_refused {error : SpecError} (refused : Spec.parse spec = .error error) {op : String}
    (ascii : Within (isAscii · = true) op) {mode : Mode} (noJson : mode.json = false) (short : mode.quiet = true) :
    ∃ text, (failed op (failureOf error)).format mode = .ok text ∧ OnOneLine text := by
  obtain ⟨text, told, printable⟩ := quietText_of_refused refused ascii
  refine ⟨text, ?_, onOneLine_of_printable printable⟩
  rw [format, noJson, short]
  exact told

theorem refused_of_returned {report : Report} (returned : report.Returned) (notOk : report.ok = false) :
    ∃ spec error op, Spec.parse spec = .error error ∧ Within (isAscii · = true) op ∧
      report = failed op (failureOf error) := by
  rcases returned_cases returned with ⟨range, rfl⟩ | ⟨range, values, numbers, rfl⟩ | refused
  · cases notOk
  · cases notOk
  · exact refused

/-- Whatever the text of a range and the values, all that is logged of them stands on one line of printable
characters, and so do the message of a failure and the failure in short. What is logged of a text that cannot
be read tells that text, margins and all, so that two such texts are not logged alike. -/
theorem records_on_one_line (spec : String) (values : List Value) :
    (∀ record ∈ (ofSpec spec).log ++ (ofCheck spec values).log, OnOneLine record.message) ∧
    (∀ report, (ofSpec spec).outcome = .ok report ∨ (ofCheck spec values).outcome = .ok report →
      report.ok = false →
      ∃ failure, report.failure = some failure ∧ OnOneLine failure.message ∧
        ∀ mode : Mode, mode.json = false → mode.quiet = true →
          ∃ text, report.format mode = .ok text ∧ OnOneLine text) ∧
    ∀ error, Spec.parse spec = .error error →
      ∃ record, (ofSpec spec).log = [record] ∧ refusedSpec? record.message = some spec ∧
        ∀ other error' record', Spec.parse other = .error error' → (ofSpec other).log = [record'] → other ≠ spec →
          record'.message ≠ record.message := by
  refine ⟨?_, ?_, ?_⟩
  · intro record member
    rcases List.mem_append.mp member with parsed | checked
    · have logged : Logged spec values record := logged_of_ofSpec parsed
      exact onOneLine_of_printable logged.printable
    · exact onOneLine_of_printable (logged_of_ofCheck checked).printable
  · intro report made notOk
    have returned : report.Returned := made.elim (.ofSpec spec) (.ofCheck spec values)
    obtain ⟨other, error, op, refused, ascii, rfl⟩ := refused_of_returned returned notOk
    exact ⟨_, rfl, message_of_refused refused, fun _ => short_of_refused refused ascii⟩
  · intro error refused
    have told := refusedSpec?_parseFailedRecord spec error
    rw [ofSpec_of_error refused]
    refine ⟨_, rfl, told, ?_⟩
    intro other error' record' refused' logged different same
    rw [ofSpec_of_error refused'] at logged
    cases logged
    rw [← same, refusedSpec?_parseFailedRecord] at told
    exact different (Option.some.inj told)

end AlertRange.Report

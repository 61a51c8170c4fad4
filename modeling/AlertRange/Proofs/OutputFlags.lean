import AlertRange.Proofs.ExitCode

namespace AlertRange

namespace Environment

open Settings

def Valid (environment : Environment) : Prop :=
  ∀ field ∈ fieldNames, ∀ text, environment.get? (variableName field) = some text →
    ∃ value, Coercion.truthOfText text = .ok value

/-- What the environment says about a field, which is off without a variable for it. -/
def sets (environment : Environment) (field : String) : Bool :=
  match environment.get? (variableName field) with
  | none => false
  | some text => (Coercion.truthOfText text).toOption.getD false

end Environment

namespace Settings

open CommandLine

def combined (environment : Environment) (flags : List Flag) : Settings :=
  ⟨.json ∈ flags || environment.sets Flag.json.field, .quiet ∈ flags || environment.sets Flag.quiet.field,
    .verbose ∈ flags || environment.sets Flag.verbose.field,
      .logJson ∈ flags || environment.sets Flag.logJson.field⟩

variable {environment : Environment} (valid : environment.Valid)

include valid

theorem resolveField_of_valid (found : Scan) (flag : Flag) :
    resolveField environment (flagFields found) flag.field =
      .ok (found.has flag || environment.sets flag.field) := by
  rw [resolveField, flag?_flagFields]
  cases found.has flag with
  | true => rfl
  | false =>
    rw [if_neg Bool.false_ne_true, Bool.false_or, Environment.sets]
    cases set : environment.get? (variableName flag.field) with
    | none => rfl
    | some text =>
      obtain ⟨value, read⟩ := valid flag.field flag.field_mem_fieldNames text set
      simp only [read]
      rfl

theorem resolve_of_valid (flags : List Flag) (operands : List String) :
    resolve environment (flagFields ⟨flags.map .flag, operands⟩) = .ok (combined environment flags) := by
  have field (flag : Flag) : resolveField environment (flagFields ⟨flags.map .flag, operands⟩) flag.field =
      .ok (decide (flag ∈ flags) || environment.sets flag.field) := by
    rw [resolveField_of_valid valid, has_flags]
  have json : resolveField environment _ "json_output" = _ := field .json
  have quiet : resolveField environment _ "quiet" = _ := field .quiet
  have verbose : resolveField environment _ "verbose" = _ := field .verbose
  have logJson : resolveField environment _ "log_json" = _ := field .logJson
  rw [resolve, json, quiet, verbose, logJson, unknownFlags_flagFields]
  rfl

end Settings

namespace CommandLine

theorem CommandName.not_isOption {word : String} {name : CommandName}
    (known : CommandName.ofWord? word = some name) :
    isOption word = false := by
  unfold CommandName.ofWord? at known
  split at known
  next parse => rw [parse]; rfl
  split at known
  next check => rw [check]; rfl
  cases known

/-- A command answers or rejects its words the same way under all settings, or it asks about a text, and what
it asks is the same under all settings. -/
theorem runCommand_cases (name : CommandName) (words : List String) :
    (∃ outcome : Outcome, ∀ settings time, runCommand settings time name words = outcome) ∨
      ∃ operands spec inquiry, Asked name operands spec inquiry ∧
        ∀ settings time, runCommand settings time name words = emitInquiry settings time inquiry := by
  cases read : scan name.command.switches true words with
  | error fault =>
    refine Or.inl ⟨.misused name.command fault, fun settings time => ?_⟩
    simp only [runCommand, read]
  | ok found =>
    cases eager : found.eager? with
    | some request =>
      refine Or.inl ⟨.answered (eagerText name.command request), fun settings time => ?_⟩
      simp only [runCommand, read, eager]
    | none =>
      rcases asked_or_misused name found.operands with ⟨spec, inquiry, asked⟩ | ⟨fault, misused⟩
      · refine Or.inr ⟨found.operands, spec, inquiry, asked, fun settings time => ?_⟩
        simp only [runCommand, read, eager, inquire_of_asked asked]
      · refine Or.inl ⟨.misused name.command fault, fun settings time => ?_⟩
        simp only [runCommand, read, eager, inquire_of_misused misused]

section Delivery

variable {spec : String} {inquiry : Report.Inquiry} {settings settings' : Settings} {time time' : String}
  {outcome outcome' : Outcome} (first : Delivered settings time spec inquiry outcome)
  (second : Delivered settings' time' spec inquiry outcome')

include first second

theorem Delivered.code_eq : outcome.code = outcome'.code ∧ (outcome.out = "" ↔ outcome'.out = "") := by
  rcases first.code_cases with ⟨code, out, -, range, read⟩ | ⟨code, out, error, refused⟩
  · rcases second.code_cases with ⟨code', out', -⟩ | ⟨-, -, error, refused⟩
    · exact ⟨code.trans code'.symm, iff_of_false out out'⟩
    · rw [read] at refused
      cases refused
  · rcases second.code_cases with ⟨-, -, -, range, read⟩ | ⟨code', out', -⟩
    · rw [refused] at read
      cases read
    · exact ⟨code.trans code'.symm, iff_of_true out out'⟩

theorem Delivered.out_eq (form : ∀ report : Report, report.format settings.mode = report.format settings'.mode) :
    outcome.out = outcome'.out := by
  have agree := Delivered.code_eq first second
  cases first with
  | good read made ok shown =>
    cases second with
    | good read' made' ok' shown' =>
      rw [made] at made'
      cases made'
      rw [form, shown'] at shown
      cases shown
      rfl
    | _ => cases agree.1
  | brief => exact (agree.2.mp rfl).symm
  | detailed => exact (agree.2.mp rfl).symm
  | unshown => exact (agree.2.mp rfl).symm

end Delivery

theorem format_of_machine {mode mode' : Report.Mode} (json : mode.json = mode'.json)
    (quiet : mode.quiet = mode'.quiet) (machine : mode.json = true ∨ mode.quiet = true) (report : Report) :
    report.format mode = report.format mode' := by
  unfold Report.format
  rw [← json, ← quiet]
  rcases machine with on | on <;> simp only [on, if_true]

section Settings

variable (settings settings' : Settings) (time time' : String) (name : CommandName) (words : List String)

theorem runCommand_code_eq :
    (runCommand settings time name words).code = (runCommand settings' time' name words).code ∧
      ((runCommand settings time name words).out = "" ↔ (runCommand settings' time' name words).out = "") := by
  rcases runCommand_cases name words with ⟨outcome, same⟩ | ⟨operands, spec, inquiry, asked, asks⟩
  · rw [same, same]
    exact ⟨rfl, Iff.rfl⟩
  · rw [asks, asks]
    exact (delivered_of_asked asked settings time).code_eq (delivered_of_asked asked settings' time')

theorem runCommand_out_eq (form : ∀ report : Report, report.format settings.mode = report.format settings'.mode) :
    (runCommand settings time name words).out = (runCommand settings' time' name words).out := by
  rcases runCommand_cases name words with ⟨outcome, same⟩ | ⟨operands, spec, inquiry, asked, asks⟩
  · rw [same, same]
  · rw [asks, asks]
    exact (delivered_of_asked asked settings time).out_eq (delivered_of_asked asked settings' time') form

end Settings

theorem enters_of_valid {environment : Environment} (valid : environment.Valid) {word : String}
    {name : CommandName}
    (known : CommandName.ofWord? word = some name) (flags : List Flag) (rest : List String) :
    Enters environment (flags.map Flag.word ++ word :: rest) (Settings.combined environment flags) name rest :=
  .intro ⟨scan_words flags (CommandName.not_isOption known) rest, eager?_flags flags _⟩ rfl known
    (Settings.resolve_of_valid valid flags _)

/-- Two runs of a command whose flags differ, in an environment whose settings can all be read, agree in their
exit code and in whether they write to standard output. If the flags differ in the details and the form of the
log, they write the same there in JSON and in quiet form; if they differ in the form of the log alone, in
every form. -/
theorem runs_with_flags {environment : Environment} (valid : environment.Valid) {word : String}
    {name : CommandName}
    (known : CommandName.ofWord? word = some name) (rest : List String) (flags flags' : List Flag)
    (time time' : String) :
    let outcome := run environment time (flags.map Flag.word ++ word :: rest)
    let outcome' := run environment time' (flags'.map Flag.word ++ word :: rest)
    let settings := Settings.combined environment flags
    Enters environment (flags.map Flag.word ++ word :: rest) settings name rest ∧
      outcome.code = outcome'.code ∧ (outcome.out = "" ↔ outcome'.out = "") ∧
      ((∀ flag, flag ≠ .verbose → flag ≠ .logJson → (flag ∈ flags ↔ flag ∈ flags')) →
        settings.jsonOutput = true ∨ settings.quiet = true → outcome.out = outcome'.out) ∧
      ((∀ flag, flag ≠ .logJson → (flag ∈ flags ↔ flag ∈ flags')) → outcome.out = outcome'.out) := by
  intro outcome outcome' settings
  have enters := enters_of_valid valid known flags rest
  have ran : outcome = _ := run_of_enters enters time
  have ran' : outcome' = _ := run_of_enters (enters_of_valid valid known flags' rest) time'
  rw [ran, ran']
  obtain ⟨code, out⟩ := runCommand_code_eq settings (Settings.combined environment flags') time time' name rest
  refine ⟨enters, code, out, ?_, ?_⟩
  · intro agree machine
    have json := agree .json (by decide) (by decide)
    have quiet := agree .quiet (by decide) (by decide)
    refine runCommand_out_eq _ _ _ _ _ _ (format_of_machine ?_ ?_ machine)
    · simp only [Settings.mode, Settings.combined, json]
    · simp only [Settings.mode, Settings.combined, quiet]
  · intro agree
    have json := agree .json (by decide)
    have quiet := agree .quiet (by decide)
    have verbose := agree .verbose (by decide)
    refine runCommand_out_eq _ _ _ _ _ _ fun report => congrArg report.format ?_
    simp only [Settings.mode, Settings.combined, json, quiet, verbose]

theorem runs_with_flags_verbose :
    let environment : Environment := [("NAGRANGE_QUIET", "Yes")]
    environment.Valid ∧
      (run environment "12:00" ["--log-json", "-v", "check", "10", "11"]).out =
        (run environment "12:01" ["check", "10", "11"]).out := by
  intro environment
  have valid : environment.Valid := by
    intro field member text set
    simp only [Settings.fieldNames, List.mem_cons, List.not_mem_nil, or_false] at member
    rcases member with rfl | rfl | rfl | rfl
    · cases (show environment.get? _ = none by decide).symm.trans set
    · cases (show environment.get? _ = some "Yes" by decide).symm.trans set
      exact ⟨true, by decide⟩
    · cases (show environment.get? _ = none by decide).symm.trans set
    · cases (show environment.get? _ = none by decide).symm.trans set
  have known : CommandName.ofWord? "check" = some .check := by decide
  obtain ⟨-, -, -, same, -⟩ := runs_with_flags valid known ["10", "11"] [.logJson, .verbose] [] "12:00" "12:01"
  refine ⟨valid, same ?_ (Or.inr ?_)⟩
  · intro flag verbose logJson
    simp [verbose, logJson]
  · decide

end CommandLine

end AlertRange

import AlertRange.Proofs.CommandWords
import AlertRange.Proofs.FormattedReport

namespace AlertRange.CommandLine

open Text (Within isAscii)

/-! ### Delivery of reports -/

/-- The warnings of a report, a line for each. In JSON the report has them itself. -/
def warningLines (settings : Settings) (report : Report) : String :=
  if settings.jsonOutput then "" else lines (report.warnings.map ("WARNING: " ++ ·))

/-- What a run comes to that asks about a text. A good report goes to standard output, a failed one behind the
log. In the page with details of a failure control sequences are left out, and with joiners in the text there
may be no page. -/
inductive Delivered (settings : Settings) (time spec : String) (inquiry : Report.Inquiry) : Outcome → Prop
  | good {range : Range} {report : Report} {text : String} (read : Spec.parse spec = .ok range)
      (made : inquiry.outcome = .ok report) (ok : report.ok = true)
      (shown : report.format settings.mode = .ok text) :
      Delivered settings time spec inquiry
        ⟨0, text ++ "\n", logText settings time inquiry.log ++ warningLines settings report, none⟩
  | brief {error : SpecError} {report : Report} {text : String} (refused : Spec.parse spec = .error error)
      (made : inquiry.outcome = .ok report) (bad : report.ok = false)
      (shown : report.format settings.mode = .ok text)
      (short : settings.jsonOutput = true ∨ settings.quiet = true ∨ settings.verbose = false) :
      Delivered settings time spec inquiry ⟨1, "", logText settings time inquiry.log ++ (text ++ "\n"), none⟩
  | detailed {error : SpecError} {report : Report} {text : String} (refused : Spec.parse spec = .error error)
      (made : inquiry.outcome = .ok report) (bad : report.ok = false)
      (shown : report.format settings.mode = .ok text)
      (long : settings.jsonOutput = false ∧ settings.quiet = false ∧ settings.verbose = true) :
      Delivered settings time spec inquiry ⟨1, "", logText settings time inquiry.log ++ written text, none⟩
  | unshown {error : SpecError} {report : Report} {formError : Report.FormError}
      (refused : Spec.parse spec = .error error) (made : inquiry.outcome = .ok report) (bad : report.ok = false)
      (unshown : report.format settings.mode = .error formError)
      (long : settings.jsonOutput = false ∧ settings.quiet = false ∧ settings.verbose = true)
      (joiner : '\u200d' ∈ spec.toList) :
      Delivered settings time spec inquiry ⟨1, "", logText settings time inquiry.log, some (.report formError)⟩

variable {name : CommandName} {operands : List String} {spec : String} {inquiry : Report.Inquiry}

theorem not_mem_of_within {text : String} (unescaped : Within (· ≠ '\x1b') text) : '\x1b' ∉ text.toList :=
  fun member => unescaped _ member rfl

/-- A question about a text that can be read has a good report, which can be put in every form. -/
theorem report_of_read (asked : Asked name operands spec inquiry) {range : Range}
    (read : Spec.parse spec = .ok range) :
    ∃ report, inquiry.outcome = .ok report ∧ report.ok = true ∧
      (∀ warning ∈ report.warnings, Within (isAscii · = true) warning) ∧
      ∀ mode, Yields (Within (· ≠ '\x1b')) (report.format mode) := by
  cases asked with
  | parse =>
    refine ⟨Report.success Report.parseOp (Report.rangeFields range) [], ?_, rfl, ?_, Report.format_range range⟩
    · rw [Report.ofSpec_of_ok read]
    · simp [Report.success]
  | check spec some words =>
    next numbers =>
    have checkable : ∀ value ∈ numbers.map Value.float, value.Checkable := by
      intro value member
      obtain ⟨x, -, rfl⟩ := List.mem_map.mp member
      exact .float x
    have judged : ∀ item ∈ (numbers.map Value.float).map (Report.itemOf range), item.value.Checkable := by
      intro item member
      obtain ⟨value, inside, rfl⟩ := List.mem_map.mp member
      exact checkable value inside
    have writable : ∀ item ∈ (numbers.map Value.float).map (Report.itemOf range), item.value.Writable := by
      intro item member
      obtain ⟨value, inside, rfl⟩ := List.mem_map.mp member
      obtain ⟨x, -, rfl⟩ := List.mem_map.mp inside
      exact Value.writable_float x
    refine ⟨_, by rw [Report.ofCheck_of_checkable read checkable], rfl, ?_,
      fun mode => Report.format_check range judged _ (Or.inr (Or.inr writable))⟩
    intro warning member
    change warning ∈ Report.warningsFor _ at member
    unfold Report.warningsFor at member
    split at member
    · rw [List.mem_singleton.mp member]
      exact Within.ascii Report.nanWarning (by decide)
    · cases member

theorem report_of_refused (asked : Asked name operands spec inquiry) {error : SpecError}
    (refused : Spec.parse spec = .error error) :
    ∃ op, inquiry.outcome = .ok (Report.failed op (Report.failureOf error)) ∧ Within (isAscii · = true) op := by
  cases asked with
  | parse =>
    refine ⟨Report.parseOp, ?_, Within.ascii _ (by decide)⟩
    rw [Report.ofSpec_of_error refused]
  | check spec some words =>
    refine ⟨Report.checkOp, ?_, Within.ascii _ (by decide)⟩
    rw [Report.ofCheck_of_error refused]

theorem warningText_eq {settings : Settings} {report : Report}
    (ascii : ∀ warning ∈ report.warnings, Within (isAscii · = true) warning) :
    warningText settings report = warningLines settings report := by
  have line : ∀ warning ∈ report.warnings, written ("WARNING: " ++ warning) = "WARNING: " ++ warning ++ "\n" := by
    intro warning member
    have all := (Within.ascii "WARNING: " (by decide)).append (ascii warning member)
    exact written_of_not_mem (not_mem_of_within (all.mono fun _ => Json.not_escape_of_isAscii))
  rw [warningText, warningLines, lines, List.map_map]
  split
  · rfl
  · exact congrArg String.join (List.map_congr_left line)

theorem emitInquiry_of_report {report : Report} (made : inquiry.outcome = .ok report) (settings : Settings)
    (time : String) : emitInquiry settings time inquiry = emit settings
      (logText settings time inquiry.log) report := by
  rw [emitInquiry, made]

theorem delivered_of_asked (asked : Asked name operands spec inquiry) (settings : Settings) (time : String) :
    Delivered settings time spec inquiry (emitInquiry settings time inquiry) := by
  cases parsed : Spec.parse spec with
  | ok range =>
    obtain ⟨report, made, ok, ascii, formats⟩ := report_of_read asked parsed
    obtain ⟨text, shown, unescaped⟩ := formats settings.mode
    rw [emitInquiry_of_report made, emit, shown]
    simp only [ok, if_true, written_of_not_mem (not_mem_of_within unescaped), warningText_eq ascii]
    exact .good parsed made ok shown
  | error error =>
    obtain ⟨op, made, ascii⟩ := report_of_refused asked parsed
    rw [emitInquiry_of_report made, emit]
    by_cases short : settings.jsonOutput = true ∨ settings.quiet = true ∨ settings.verbose = false
    · have shortMode : settings.mode.json = true ∨ settings.mode.quiet = true ∨
        settings.mode.verbose = false := short
      obtain ⟨text, shown, unescaped⟩ := Report.format_refused parsed ascii shortMode
      rw [shown]
      simp only [Report.failed, Bool.false_eq_true, if_false, written_of_not_mem (not_mem_of_within unescaped)]
      exact .brief parsed made rfl shown short
    · have long : settings.jsonOutput = false ∧ settings.quiet = false ∧ settings.verbose = true := by
        simpa using short
      cases shown : (Report.failed op (Report.failureOf error)).format settings.mode with
      | ok text => exact .detailed parsed made rfl shown long
      | error formError =>
        refine .unshown parsed made rfl shown long ?_
        by_contra absent
        obtain ⟨text, other⟩ := Report.format_refused_of_not_mem parsed ascii absent settings.mode
        rw [shown] at other
        cases other

/-! ### Ways of a run -/

/-- The options of a run up to its first operand. None of them is answered at once. -/
structure Opens (words : List String) (found : Scan) : Prop where
  read : scan rootCommand.switches false words = .ok found
  patient : found.eager? = none

/-- A run comes to a command, with settings and the words of the command still to be read. -/
inductive Enters (environment : Environment) (words : List String) : Settings → CommandName → List String → Prop
  | intro {found : Scan} {word : String} {rest : List String} {name : CommandName} {settings : Settings}
      (opens : Opens words found) (operands : found.operands = word :: rest)
      (known : CommandName.ofWord? word = some name)
      (set : Settings.resolve environment (flagFields found) = .ok settings) :
      Enters environment words settings name rest

inductive Asks (environment : Environment) (words : List String) : Settings → String → Report.Inquiry → Prop
  | intro {settings : Settings} {name : CommandName} {rest : List String} {found : Scan} {spec : String}
      {inquiry : Report.Inquiry} (enters : Enters environment words settings name rest)
      (read : scan name.command.switches true rest = .ok found) (patient : found.eager? = none)
      (asked : Asked name found.operands spec inquiry) : Asks environment words settings spec inquiry

inductive Unset (environment : Environment) (words : List String) : List FieldError → Prop
  | alone {found : Scan} {errors : List FieldError} (opens : Opens words found) (alone : found.operands = [])
      (refused : Settings.resolve environment (flagFields found) = .error errors) : Unset environment words errors
  | command {found : Scan} {word : String} {rest : List String} {name : CommandName} {errors : List FieldError}
      (opens : Opens words found) (operands : found.operands = word :: rest)
      (known : CommandName.ofWord? word = some name)
      (refused : Settings.resolve environment (flagFields found) = .error errors) : Unset environment words errors

/-- The words of a run are no command line: an option or a command is unknown, or the operands are out of order. -/
inductive Rejects (environment : Environment) (words : List String) : Command → UsageFault → Prop
  | option {fault : UsageFault} (refused : scan rootCommand.switches false words = .error fault) :
      Rejects environment words rootCommand fault
  | unknownOption {found : Scan} {word : String} {rest : List String} {fault : UsageFault}
      (opens : Opens words found)
      (operands : found.operands = word :: rest) (unknown : CommandName.ofWord? word = none)
      (refused : scan rootCommand.switches false (word :: rest) = .error fault) :
      Rejects environment words rootCommand fault
  | unknownCommand {found : Scan} {word : String} {rest : List String} {again : Scan} (opens : Opens words found)
      (operands : found.operands = word :: rest) (unknown : CommandName.ofWord? word = none)
      (reopens : Opens (word :: rest) again) :
      Rejects environment words rootCommand
        (.unknownCommand word (Text.suggestions word CommandName.words))
  | commandOption {settings : Settings} {name : CommandName} {rest : List String} {fault : UsageFault}
      (enters : Enters environment words settings name rest)
      (refused : scan name.command.switches true rest = .error fault) :
      Rejects environment words name.command fault
  | operands {settings : Settings} {name : CommandName} {rest : List String} {found : Scan} {fault : UsageFault}
      (enters : Enters environment words settings name rest)
      (read : scan name.command.switches true rest = .ok found) (patient : found.eager? = none)
      (misused : Misused name found.operands fault) : Rejects environment words name.command fault

/-- A run answers an option, or has nothing to do and shows help. -/
inductive Answers (environment : Environment) (words : List String) : String → Prop
  | option {found : Scan} {request : Request} (read : scan rootCommand.switches false words = .ok found)
      (eager : found.eager? = some request) : Answers environment words (eagerText rootCommand request)
  | unknown {found : Scan} {word : String} {rest : List String} {again : Scan} {request : Request}
      (opens : Opens words found) (operands : found.operands = word :: rest)
      (unknown : CommandName.ofWord? word = none)
      (read : scan rootCommand.switches false (word :: rest) = .ok again)
      (eager : again.eager? = some request) : Answers environment words (eagerText rootCommand request)
  | alone {found : Scan} {settings : Settings} (opens : Opens words found) (alone : found.operands = [])
      (set : Settings.resolve environment (flagFields found) = .ok settings) :
      Answers environment words rootCommand.helpText
  | commandOption {settings : Settings} {name : CommandName} {rest : List String} {found : Scan}
      {request : Request}
      (enters : Enters environment words settings name rest)
      (read : scan name.command.switches true rest = .ok found) (eager : found.eager? = some request) :
      Answers environment words (eagerText name.command request)

variable {environment : Environment} {words : List String}

theorem run_of_enters {settings : Settings} {rest : List String}
    (enters : Enters environment words settings name rest)
    (time : String) : run environment time words = runCommand settings time name rest := by
  cases enters with
  | intro opens operands known set =>
    simp only [run, opens.read, opens.patient, operands, known, withSettings, set]

theorem run_of_unknown {found : Scan} {word : String} {rest : List String} (opens : Opens words found)
    (operands : found.operands = word :: rest) (unknown : CommandName.ofWord? word = none) (time : String) :
    run environment time words = runUnknown word rest := by
  simp only [run, opens.read, opens.patient, operands, unknown]

theorem run_of_asks {settings : Settings} (asks : Asks environment words settings spec inquiry) (time : String) :
    Delivered settings time spec inquiry (run environment time words) := by
  cases asks with
  | intro enters read patient asked =>
    rw [run_of_enters enters]
    simp only [runCommand, read, patient, inquire_of_asked asked]
    exact delivered_of_asked asked settings time

theorem run_of_unset {errors : List FieldError} (unset : Unset environment words errors) (time : String) :
    run environment time words = .unset errors := by
  cases unset with
  | alone opens alone refused => simp only [run, opens.read, opens.patient, alone, withSettings, refused]
  | command opens operands known refused =>
    simp only [run, opens.read, opens.patient, operands, known, withSettings, refused]

theorem run_of_rejects {command : Command} {fault : UsageFault} (rejects : Rejects environment words command fault)
    (time : String) : run environment time words = .misused command fault := by
  cases rejects with
  | option refused => simp only [run, refused]
  | unknownOption opens operands unknown refused =>
    rw [run_of_unknown opens operands unknown]
    simp only [runUnknown, refused]
  | unknownCommand opens operands unknown reopens =>
    rw [run_of_unknown opens operands unknown]
    simp only [runUnknown, reopens.read, reopens.patient]
  | commandOption enters refused =>
    rw [run_of_enters enters]
    simp only [runCommand, refused]
  | operands enters read patient misused =>
    rw [run_of_enters enters]
    simp only [runCommand, read, patient, inquire_of_misused misused]

theorem run_of_answers {text : String} (answers : Answers environment words text) (time : String) :
    run environment time words = .answered text := by
  cases answers with
  | option read eager => simp only [run, read, eager]
  | unknown opens operands unknown read eager =>
    rw [run_of_unknown opens operands unknown]
    simp only [runUnknown, read, eager]
  | alone opens alone set => simp only [run, opens.read, opens.patient, alone, withSettings, set]
  | commandOption enters read eager =>
    rw [run_of_enters enters]
    simp only [runCommand, read, eager]

theorem enters_cases {settings : Settings} {rest : List String}
    (enters : Enters environment words settings name rest) :
    (∃ text, Answers environment words text) ∨ (∃ command fault, Rejects environment words command fault) ∨
      ∃ spec inquiry, Asks environment words settings spec inquiry := by
  cases read : scan name.command.switches true rest with
  | error fault => exact Or.inr (Or.inl ⟨_, fault, .commandOption enters read⟩)
  | ok found =>
    cases eager : found.eager? with
    | some request => exact Or.inl ⟨_, .commandOption enters read eager⟩
    | none =>
      rcases asked_or_misused name found.operands with ⟨spec, inquiry, asked⟩ | ⟨fault, misused⟩
      · exact Or.inr (Or.inr ⟨spec, inquiry, .intro enters read eager asked⟩)
      · exact Or.inr (Or.inl ⟨_, fault, .operands enters read eager misused⟩)

theorem unknown_cases {found : Scan} {word : String} {rest : List String} (opens : Opens words found)
    (operands : found.operands = word :: rest) (unknown : CommandName.ofWord? word = none) :
    (∃ text, Answers environment words text) ∨ ∃ command fault, Rejects environment words command fault := by
  cases read : scan rootCommand.switches false (word :: rest) with
  | error fault => exact Or.inr ⟨_, fault, .unknownOption opens operands unknown read⟩
  | ok again =>
    cases eager : again.eager? with
    | some request => exact Or.inl ⟨_, .unknown opens operands unknown read eager⟩
    | none => exact Or.inr ⟨_, _, .unknownCommand opens operands unknown ⟨read, eager⟩⟩

/-- Every run goes one of four ways. -/
theorem run_cases (environment : Environment) (words : List String) :
    (∃ text, Answers environment words text) ∨ (∃ command fault, Rejects environment words command fault) ∨
      (∃ errors, Unset environment words errors) ∨
        ∃ settings spec inquiry, Asks environment words settings spec inquiry := by
  cases read : scan rootCommand.switches false words with
  | error fault => exact Or.inr (Or.inl ⟨_, fault, .option read⟩)
  | ok found =>
    cases eager : found.eager? with
    | some request => exact Or.inl ⟨_, .option read eager⟩
    | none =>
      have opens : Opens words found := ⟨read, eager⟩
      cases operands : found.operands with
      | nil =>
        cases set : Settings.resolve environment (flagFields found) with
        | ok settings => exact Or.inl ⟨_, .alone opens operands set⟩
        | error errors => exact Or.inr (Or.inr (Or.inl ⟨errors, .alone opens operands set⟩))
      | cons word rest =>
        cases known : CommandName.ofWord? word with
        | none => exact (unknown_cases opens operands known).imp_right Or.inl
        | some name =>
          cases set : Settings.resolve environment (flagFields found) with
          | error errors => exact Or.inr (Or.inr (Or.inl ⟨errors, .command opens operands known set⟩))
          | ok settings =>
            have ways := enters_cases (.intro opens operands known set)
            exact ways.imp_right fun later => later.imp_right fun asks => Or.inr ⟨settings, asks⟩

end AlertRange.CommandLine

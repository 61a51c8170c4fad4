import AlertRange.Proofs.CommandRun

namespace AlertRange.CommandLine

variable {environment : Environment} {words : List String} {name : CommandName} {operands : List String}
    {spec : String}
  {inquiry : Report.Inquiry}

/-! ### Exit codes -/

theorem lines_ne_empty (text : String) (more : List String) : lines (text :: more) ≠ "" := by
  intro empty
  have none := congrArg String.toList empty
  simp [lines, String.join_cons] at none

theorem eagerText_ne_empty (command : Command) (request : Request) : eagerText command request ≠ "" := by
  cases request <;> exact lines_ne_empty _ _

theorem Answers.ne_empty {text : String} (answers : Answers environment words text) : text ≠ "" := by
  cases answers with
  | alone => exact lines_ne_empty _ _
  | _ => exact eagerText_ne_empty _ _

section Delivery

variable {settings : Settings} {time : String} {outcome : Outcome}
  (delivered : Delivered settings time spec inquiry outcome)

include delivered

theorem Delivered.code_cases :
    (outcome.code = 0 ∧ outcome.out ≠ "" ∧ outcome.fault = none ∧ ∃ range, Spec.parse spec = .ok range) ∨
      (outcome.code = 1 ∧ outcome.out = "" ∧ ∃ error, Spec.parse spec = .error error) := by
  cases delivered with
  | good read =>
    refine Or.inl ⟨rfl, ?_, rfl, _, read⟩
    intro empty
    have none := congrArg String.toList empty
    simp at none
  | brief refused => exact Or.inr ⟨rfl, rfl, _, refused⟩
  | detailed refused => exact Or.inr ⟨rfl, rfl, _, refused⟩
  | unshown refused => exact Or.inr ⟨rfl, rfl, _, refused⟩

/-- A report that is not shown is the page with the details of a failure, on a text with joiners. -/
theorem Delivered.fault_cases {fault : RunFault} (found : outcome.fault = some fault) :
    (∃ formError, fault = .report formError) ∧ (∃ error, Spec.parse spec = .error error) ∧
      (settings.jsonOutput = false ∧ settings.quiet = false ∧ settings.verbose = true) ∧
      '\u200d' ∈ spec.toList := by
  cases delivered with
  | good => cases found
  | brief => cases found
  | detailed => cases found
  | unshown refused made bad unshown long joiner =>
    cases found
    exact ⟨⟨_, rfl⟩, ⟨_, refused⟩, long, joiner⟩

end Delivery

theorem run_ends (environment : Environment) (time : String) (words : List String) :
    let outcome := run environment time words
    (outcome.code = 0 ∧ outcome.out ≠ "" ∧ outcome.fault = none) ∨
      (outcome.code = 2 ∧ outcome.out = "" ∧ outcome.fault = none ∧
        ∃ command fault, Rejects environment words command fault) ∨
      (outcome.code = 1 ∧ outcome.out = "" ∧ ∃ errors, Unset environment words errors) ∨
      (outcome.code = 1 ∧ outcome.out = "" ∧
        ∃ settings spec inquiry error, Asks environment words settings spec inquiry ∧
          Spec.parse spec = .error error) := by
  intro outcome
  rcases run_cases environment words with ⟨text, answers⟩ | ⟨command, fault, rejects⟩ | ⟨errors, unset⟩ |
    ⟨settings, spec, inquiry, asks⟩
  · have ran : outcome = .answered text := run_of_answers answers time
    rw [ran]
    exact Or.inl ⟨rfl, answers.ne_empty, rfl⟩
  · have ran : outcome = .misused command fault := run_of_rejects rejects time
    rw [ran]
    exact Or.inr (Or.inl ⟨rfl, rfl, rfl, command, fault, rejects⟩)
  · have ran : outcome = .unset errors := run_of_unset unset time
    rw [ran]
    exact Or.inr (Or.inr (Or.inl ⟨rfl, rfl, errors, unset⟩))
  · have delivered : Delivered settings time spec inquiry outcome := run_of_asks asks time
    rcases delivered.code_cases with ⟨code, out, whole, -⟩ | ⟨code, out, error, refused⟩
    · exact Or.inl ⟨code, out, whole⟩
    · exact Or.inr (Or.inr (Or.inr ⟨code, out, settings, spec, inquiry, error, asks, refused⟩))

theorem code_cases (environment : Environment) (time : String) (words : List String) :
    (run environment time words).code = 0 ∨ (run environment time words).code = 1 ∨
      (run environment time words).code = 2 := by
  rcases run_ends environment time words with ⟨code, -⟩ | ⟨code, -⟩ | ⟨code, -⟩ | ⟨code, -⟩ <;> omega

theorem out_ne_empty_iff (environment : Environment) (time : String) (words : List String) :
    (run environment time words).out ≠ "" ↔ (run environment time words).code = 0 := by
  rcases run_ends environment time words with ⟨code, out, -⟩ | ⟨code, out, -⟩ | ⟨code, out, -⟩ | ⟨code, out, -⟩
  · exact ⟨fun _ => code, fun _ => out⟩
  all_goals
    rw [out, code]
    simp

theorem way_of_fault {environment : Environment} {time : String} {words : List String}
    (stopped : (run environment time words).fault.isSome) :
    (∃ errors, Unset environment words errors) ∨
      ∃ settings spec inquiry, Asks environment words settings spec inquiry := by
  rcases run_ends environment time words with ⟨-, -, whole⟩ | ⟨-, -, whole, -⟩ | ⟨-, -, unset⟩ |
    ⟨-, -, settings, spec, inquiry, error, asks, -⟩
  · simp [whole] at stopped
  · simp [whole] at stopped
  · exact Or.inl unset
  · exact Or.inr ⟨settings, spec, inquiry, asks⟩

theorem code_eq_two_iff (environment : Environment) (time : String) (words : List String) :
    (run environment time words).code = 2 ↔ ∃ command fault, Rejects environment words command fault := by
  constructor
  · intro code
    rcases run_ends environment time words with ⟨other, -⟩ | ⟨-, -, -, rejects⟩ | ⟨other, -⟩ | ⟨other, -⟩
    · omega
    · exact rejects
    · omega
    · omega
  · rintro ⟨command, fault, rejects⟩
    rw [run_of_rejects rejects]
    rfl

theorem code_eq_one_iff (environment : Environment) (time : String) (words : List String) :
    (run environment time words).code = 1 ↔ (∃ errors, Unset environment words errors) ∨
      ∃ settings spec inquiry error, Asks environment words settings spec inquiry ∧
        Spec.parse spec = .error error := by
  constructor
  · intro code
    rcases run_ends environment time words with ⟨other, -⟩ | ⟨other, -⟩ | ⟨-, -, unset⟩ | ⟨-, -, asks⟩
    · omega
    · omega
    · exact Or.inl unset
    · exact Or.inr asks
  · rintro (⟨errors, unset⟩ | ⟨settings, spec, inquiry, error, asks, refused⟩)
    · rw [run_of_unset unset]
      rfl
    · rcases (run_of_asks asks time).code_cases with ⟨-, -, -, range, read⟩ | ⟨code, -⟩
      · rw [refused] at read
        cases read
      · exact code

/-! ### Runs with flags -/

section Flags

variable (silent : environment.Silent) (flags : List Flag) {word : String}
    (known : CommandName.ofWord? word = some name)
  (operand : isOption word = false)

include silent known operand

theorem enters_of_flags (rest : List String) :
    Enters environment (flags.map Flag.word ++ word :: rest) (Flag.settings flags) name rest := by
  have opens : Opens (flags.map Flag.word ++ word :: rest) ⟨flags.map .flag, word :: rest⟩ :=
    ⟨scan_words flags operand rest, eager?_flags flags _⟩
  refine .intro opens rfl known ?_
  rw [Settings.resolve_of_silent _ silent]
  simp only [has_flags, Flag.settings]

theorem asks_of_flags (asked : Asked name operands spec inquiry) :
    Asks environment (flags.map Flag.word ++ word :: "--" :: operands) (Flag.settings flags) spec inquiry :=
  .intro (enters_of_flags silent flags known operand _) (scan_dashes _ true operands) rfl asked

theorem rejects_of_flags {fault : UsageFault} (misused : Misused name operands fault) :
    Rejects environment (flags.map Flag.word ++ word :: "--" :: operands) name.command fault :=
  .operands (enters_of_flags silent flags known operand _) (scan_dashes _ true operands) rfl misused

end Flags

/-! ### A text that no page holds -/

/-- A word that begins with joiners and is one column too wide for a line. -/
def joinedChars : List Char :=
  '\u200d' :: '\u200d' :: (List.replicate 60 '日' ++ ['a'])

def joinedSpec : String :=
  .ofList joinedChars

theorem trimmed_joinedSpec : Spec.trimmed joinedSpec = joinedChars := by
  have core : Text.trim Spec.isMargin joinedChars = joinedChars := by decide +kernel
  rw [Spec.trimmed, joinedSpec, String.toList_ofList, core]

theorem exists_parse_joinedSpec : ∃ error, Spec.parse joinedSpec = .error error := by
  have unread : (Spec.readTrimmed joinedChars).isOk = false := by decide +kernel
  obtain ⟨fault, read⟩ := exists_error_of_isOk unread
  rw [← trimmed_joinedSpec] at read
  exact ⟨⟨_, fault⟩, Spec.parse_eq_error_iff.mpr ⟨read, rfl⟩⟩

theorem page_joinedSpec {error : SpecError} (refused : Spec.parse joinedSpec = .error error) (op : String) :
    ((Report.failed op (Report.failureOf error)).page true).isOk = false := by
  have whole : error.spec.toList = joinedChars := by
    rw [(Spec.parse_eq_error_iff.mp refused).2, trimmed_joinedSpec, String.toList_ofList]
  have unprinted : (Report.printPart
    (.ok (.text (.plain ("    " ++ "spec" ++ ": " ++ error.spec))))).isOk = false := by
    rw [Text.Styled.plain, String.toList_append, String.toList_append, String.toList_append, whole]
    decide +kernel
  have entry : Report.entryPart ("spec", .text error.spec) =
    .ok (.text (.plain ("    " ++ "spec" ++ ": " ++ error.spec))) :=
    Report.entryPart_of_writable (Value.writable_text error.spec)
  rw [← entry] at unprinted
  exact Report.page_of_unprinted (List.mem_cons_of_mem _ (List.mem_cons_of_mem _ List.mem_cons_self)) unprinted

theorem asks_joinedSpec :
    Asks [] ["-v", "parse", "--", joinedSpec] ⟨false, false, true, false⟩ joinedSpec (Report.ofSpec joinedSpec) :=
  asks_of_flags (by decide) [.verbose] rfl rfl (.parse joinedSpec)

theorem run_joinedSpec (time : String) :
    ∃ report formError, (Report.ofSpec joinedSpec).outcome = .ok report ∧ report.ok = false ∧
      report.format ⟨false, false, true⟩ = .error formError ∧
      run [] time ["-v", "parse", "--", joinedSpec] =
        ⟨1, "", logText ⟨false, false, true, false⟩ time (Report.ofSpec joinedSpec).log,
          some (.report formError)⟩ := by
  have delivered := run_of_asks asks_joinedSpec time
  obtain ⟨error, refused⟩ := exists_parse_joinedSpec
  obtain ⟨op, made, -⟩ := report_of_refused (.parse joinedSpec) refused
  have unshown := page_joinedSpec refused op
  generalize ran : run [] time ["-v", "parse", "--", joinedSpec] = outcome at delivered
  cases delivered with
  | good read =>
    rw [refused] at read
    cases read
  | brief _ _ _ _ short => simp at short
  | detailed _ made' _ shown =>
    rw [made] at made'
    cases made'
    rw [show Report.page true _ = _ from shown] at unshown
    cases unshown
  | unshown _ made' bad error' => exact ⟨_, _, made', bad, error', rfl⟩

/-! ### Results -/

/-- The exit code is 0 exactly if something is written to standard output, 2 exactly if the words are
rejected, and 1 if there are no settings or a command asks about a text that cannot be read. Without settings
nothing is written. Nothing else stops a run but the page with the details of a text that cannot be read, and
only if the text has joiners. -/
theorem exit_codes (environment : Environment) (time : String) (words : List String) :
    let outcome := run environment time words
    (outcome.code = 0 ∨ outcome.code = 1 ∨ outcome.code = 2) ∧ (outcome.out ≠ "" ↔ outcome.code = 0) ∧
      (outcome.code = 2 ↔ ∃ command fault, Rejects environment words command fault) ∧
      (outcome.code = 1 ↔ (∃ errors, Unset environment words errors) ∨
        ∃ settings spec inquiry error, Asks environment words settings spec inquiry ∧
          Spec.parse spec = .error error) ∧
      (outcome.fault.isSome → (∃ errors, Unset environment words errors) ∨
        ∃ settings spec inquiry, Asks environment words settings spec inquiry) ∧
      (∀ errors, Unset environment words errors → outcome = ⟨1, "", "", some (.settings errors)⟩) ∧
      ∀ settings spec inquiry, Asks environment words settings spec inquiry →
        ∀ fault, outcome.fault = some fault →
          (∃ formError, fault = .report formError) ∧ (∃ error, Spec.parse spec = .error error) ∧
            (settings.jsonOutput = false ∧ settings.quiet = false ∧ settings.verbose = true) ∧
            '\u200d' ∈ spec.toList := by
  intro outcome
  refine ⟨code_cases environment time words, out_ne_empty_iff environment time words,
    code_eq_two_iff environment time words, code_eq_one_iff environment time words, way_of_fault, ?_, ?_⟩
  · intro errors unset
    exact run_of_unset unset time
  · intro settings spec inquiry asks fault found
    exact (run_of_asks asks time).fault_cases found

/-- A text that cannot be read may stop a run. -/
theorem stopped_joinedSpec :
    ∃ settings inquiry error formError,
      Asks [] ["-v", "parse", "--", joinedSpec] settings joinedSpec inquiry ∧
      Spec.parse joinedSpec = .error error ∧
      (run [] "" ["-v", "parse", "--", joinedSpec]).fault = some (.report formError) := by
  obtain ⟨error, refused⟩ := exists_parse_joinedSpec
  obtain ⟨report, formError, -, -, -, ran⟩ := run_joinedSpec ""
  exact ⟨_, _, error, formError, asks_joinedSpec, refused, by rw [ran]⟩

/-- With flags for its only settings a command delivers the report on its operands, which follow two dashes. A
check without values, or of a word that is no number, is rejected, whatever the text of the range. -/
theorem run_of_flags {environment : Environment} (silent : environment.Silent) (time : String) (flags : List Flag)
    (spec : String) (words : List String) :
    let checked := run environment time (flags.map Flag.word ++ "check" :: "--" :: spec :: words)
    (words = [] ∨ (∃ word ∈ words, readValue? word = none) → checked.code = 2 ∧ checked.out = "") ∧
      (∀ numbers, words ≠ [] → Numbers words numbers →
        Delivered (Flag.settings flags) time spec (Report.ofCheck spec (numbers.map .float)) checked) ∧
      Delivered (Flag.settings flags) time spec (Report.ofSpec spec)
        (run environment time (flags.map Flag.word ++ ["parse", "--", spec])) := by
  refine ⟨?_, ?_, ?_⟩
  · intro faulty
    rcases asked_or_misused .check (spec :: words) with ⟨other, inquiry, asked⟩ | ⟨fault, misused⟩
    · cases asked with
      | check spec some read =>
        rcases faulty with none | ⟨word, member, unread⟩
        · exact absurd none some
        · exact absurd unread (read.ne_none word member)
    · rw [run_of_rejects (rejects_of_flags silent flags rfl rfl misused)]
      exact ⟨rfl, rfl⟩
  · intro numbers some read
    exact run_of_asks (asks_of_flags silent flags rfl rfl (.check spec some read)) time
  · exact run_of_asks (asks_of_flags silent flags rfl rfl (.parse spec)) time

theorem run_of_flags_negative :
    Environment.Silent [("PATH", "/usr/bin")] ∧
      (run [("PATH", "/usr/bin")] "12:00" ["--json", "check", "--", "-5:5"]).code = 2 ∧
      Delivered ⟨true, false, false, false⟩ "12:00" "-5:5" (Report.ofSpec "-5:5")
        (run [("PATH", "/usr/bin")] "12:00" ["--json", "parse", "--", "-5:5"]) := by
  have silent : Environment.Silent [("PATH", "/usr/bin")] := by decide
  obtain ⟨checked, -, parsed⟩ := run_of_flags silent "12:00" [.json] "-5:5" []
  exact ⟨silent, (checked (Or.inl rfl)).1, parsed⟩

/-- The formatted report on a text that cannot be read need not be written. -/
theorem not_written_joinedSpec :
    ∃ report, (Report.ofSpec joinedSpec).outcome = .ok report ∧ report.ok = false ∧
      (report.format ⟨false, false, true⟩).isOk = false ∧
      (run [] "" ["-v", "parse", "--", joinedSpec]).err =
        logText ⟨false, false, true, false⟩ "" (Report.ofSpec joinedSpec).log := by
  obtain ⟨report, formError, made, bad, unshown, ran⟩ := run_joinedSpec ""
  exact ⟨report, made, bad, by rw [unshown]; rfl, by rw [ran]⟩

end AlertRange.CommandLine

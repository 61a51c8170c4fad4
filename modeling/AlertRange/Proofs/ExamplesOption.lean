import AlertRange.Proofs.OutputFlags
import AlertRange.Proofs.SettingsResolution

namespace AlertRange.CommandLine

def examplesWord : String := "--examples"

/-- Words of which none is an option: no dash in front, or a dash alone. -/
def Operands (words : List String) : Prop :=
  ∀ word ∈ words, isOption word = false

instance (words : List String) : Decidable (Operands words) :=
  inferInstanceAs (Decidable (∀ word ∈ words, isOption word = false))

variable {name : CommandName} {words : List String} {spec : String} {inquiry : Report.Inquiry}

section Words

variable (name) (switches : List Switch)

theorem scan_operand {word : String} (operand : isOption word = false) (rest : List String) :
    scan switches true (word :: rest) =
      (scan switches true rest).map fun more => { more with operands := word :: more.operands } := by
  have proper : word ≠ "--" := by
    rintro rfl
    cases operand
  rw [scan, if_neg proper, operand]
  rfl

theorem scan_request (rest : List String) :
    scan name.command.switches true (examplesWord :: rest) =
      (scan name.command.switches true rest).map fun more =>
        { more with requests := .examples :: more.requests } := by
  have read : readOption name.command.switches examplesWord = .ok [.examples] := by cases name <;> decide
  have proper : examplesWord ≠ "--" ∧ isOption examplesWord = true := by decide
  rw [scan, if_neg proper.1, if_pos proper.2, read]
  rfl

theorem scan_of_operands (line : List String) (operands : Operands (line.filter (· ≠ examplesWord))) :
    scan name.command.switches true line =
      .ok ⟨List.replicate (line.count examplesWord) .examples, line.filter (· ≠ examplesWord)⟩ := by
  induction line with
  | nil => rfl
  | cons word line ih =>
    by_cases request : word = examplesWord
    · subst request
      simp only [List.filter_cons, ne_eq, not_true_eq_false, decide_false, Bool.false_eq_true,
        if_false] at operands ⊢
      rw [scan_request, ih operands, List.count_cons_self]
      rfl
    · simp only [List.filter_cons, ne_eq, request, not_false_eq_true, decide_true, if_true] at operands ⊢
      have first := operands word (List.mem_cons_self ..)
      have later : Operands (line.filter (· ≠ examplesWord)) := fun other member =>
        operands other (List.mem_cons_of_mem _ member)
      rw [scan_operand _ first, ih later, List.count_cons_of_ne request]
      rfl

theorem scan_of_dashes (operands : Operands words) (after : List String) :
    scan switches true (words ++ "--" :: after) = .ok ⟨[], words ++ after⟩ := by
  induction words with
  | nil => exact scan_dashes switches true after
  | cons word words ih =>
    have first := operands word (List.mem_cons_self ..)
    rw [List.cons_append, scan_operand _ first, ih fun other member =>
      operands other (List.mem_cons_of_mem _ member)]
    rfl

theorem runCommand_of_request (settings : Settings) (time : String) {line : List String}
    (operands : Operands (line.filter (· ≠ examplesWord))) (asked : examplesWord ∈ line) :
    runCommand settings time name line = .answered name.command.examplesText := by
  obtain ⟨count, more⟩ := Nat.exists_eq_succ_of_ne_zero (List.count_pos_iff.mpr asked).ne'
  have eager (operands : List String) :
      Scan.eager? ⟨List.replicate (line.count examplesWord) .examples, operands⟩ = some .examples := by
    rw [more, List.replicate_succ]
    rfl
  simp only [runCommand, scan_of_operands name line operands, eager]
  rfl

end Words

theorem parse_examplesWord : ∃ error, Spec.parse examplesWord = .error error := by
  cases parsed : Spec.parse examplesWord with
  | error error => exact ⟨error, rfl⟩
  | ok range =>
    have refused : (Spec.parse examplesWord).isOk = false := by decide +kernel
    rw [parsed] at refused
    cases refused

theorem readValue?_examplesWord : readValue? examplesWord = none := by
  decide +kernel

theorem spec_of_asked (asked : Asked name words spec inquiry) (member : examplesWord ∈ words) :
    spec = examplesWord := by
  cases asked with
  | parse => exact (List.mem_singleton.mp member).symm
  | check spec some read =>
    rcases List.mem_cons.mp member with first | later
    · exact first.symm
    · exact absurd readValue?_examplesWord (read.ne_none _ later)

def runOperands (settings : Settings) (time : String) (name : CommandName) (operands : List String) : Outcome :=
  match name.inquire operands with
  | .error fault => .misused name.command fault
  | .ok inquiry => emitInquiry settings time inquiry

theorem runCommand_of_dashes (settings : Settings) (time : String) (operands : Operands words)
    (after : List String) :
    runCommand settings time name (words ++ "--" :: after) = runOperands settings time name (words ++ after) := by
  have patient : Scan.eager? ⟨[], words ++ after⟩ = none := rfl
  simp only [runCommand, scan_of_dashes _ operands, patient]
  rfl

theorem runOperands_of_examples (settings : Settings) (time : String) (member : examplesWord ∈ words) :
    (runOperands settings time name words).code ≠ 0 ∧ (runOperands settings time name words).out = "" := by
  rcases asked_or_misused name words with ⟨spec, inquiry, asked⟩ | ⟨fault, misused⟩
  · obtain ⟨error, refused⟩ := parse_examplesWord
    rw [← spec_of_asked asked member] at refused
    rw [runOperands, inquire_of_asked asked]
    rcases (delivered_of_asked asked settings time).code_cases with ⟨-, -, -, range, read⟩ | ⟨code, out, -⟩
    · rw [refused] at read
      cases read
    · exact ⟨by rw [code]; decide, out⟩
  · rw [runOperands, inquire_of_misused misused]
    exact ⟨Nat.succ_ne_zero 1, rfl⟩

section Settings

variable {environment : Environment} {flags : List Flag} {flag : Flag} {text : String} {fault : FieldFault}

theorem not_sets_of_not_mem (unset : flag ∉ flags) (operands : List String) :
    ∀ other ∈ flagFields ⟨flags.map .flag, operands⟩, ¬ Settings.Sets flag.field other := by
  rw [flagFields_eq]
  intro other member
  obtain ⟨found, -, rfl⟩ := List.mem_map.mp member
  rintro ⟨on, named⟩
  rw [Flag.isWord_field, decide_eq_true_eq] at named
  subst named
  rw [has_flags] at on
  exact unset (of_decide_eq_true on)

theorem resolve_of_unread (unset : flag ∉ flags)
    (set : environment.get? (Settings.variableName flag.field) = some text)
    (unread : Coercion.truthOfText text = .error fault) (operands : List String) :
    ∃ errors, ⟨flag.field, fault⟩ ∈ errors ∧
      Settings.resolve environment (flagFields ⟨flags.map .flag, operands⟩) = .error errors := by
  choose result resolved _ using Settings.exists_resolved environment (flagFields ⟨flags.map .flag, operands⟩)
  have found : result flag.field = .error fault := by
    rw [(resolved flag.field).of_unset (not_sets_of_not_mem unset operands) set, unread]
  have told : FieldError.mk flag.field fault ∈ Settings.fieldFaults result := by
    refine List.mem_flatMap.mpr ⟨flag.field, flag.field_mem_fieldNames, ?_⟩
    rw [found]
    exact List.mem_singleton_self _
  rcases Settings.resolve_cases fun field _ => resolved field with ⟨_, -, -, none⟩ | ⟨refused, -⟩
  · rw [(List.append_eq_nil_iff.mp none).1] at told
    cases told
  · exact ⟨_, List.mem_append_left _ told, refused⟩

theorem unset_of_unread {word : String} (known : CommandName.ofWord? word = some name) (unset : flag ∉ flags)
    (set : environment.get? (Settings.variableName flag.field) = some text)
    (unread : Coercion.truthOfText text = .error fault) (line : List String) :
    ∃ errors, ⟨flag.field, fault⟩ ∈ errors ∧ Unset environment (flags.map Flag.word ++ word :: line) errors := by
  obtain ⟨errors, told, refused⟩ := resolve_of_unread unset set unread (word :: line)
  have opens : Opens (flags.map Flag.word ++ word :: line) ⟨flags.map .flag, word :: line⟩ :=
    ⟨scan_words flags (CommandName.not_isOption known) line, eager?_flags flags _⟩
  exact ⟨errors, told, .command opens rfl known refused⟩

end Settings

/-- A command with operands of any number and any text. Where the settings in the environment can be read, one
or more requests for examples put in anywhere among the operands have the examples of the command written and
nothing else. Behind two dashes a request is an operand like all words there; the run then fails and writes
nothing to standard output. Where a setting in the environment cannot be read and no flag overrides it, the
run ends with the faults of the settings, whatever the words of the command. -/
theorem run_of_examples {word : String} {name : CommandName} (known : CommandName.ofWord? word = some name)
    (environment : Environment) (time : String) (flags : List Flag) {words : List String}
    (operands : Operands words) :
    let ran := fun line => run environment time (flags.map Flag.word ++ word :: line)
    (environment.Valid →
      (∀ line, line.filter (· ≠ examplesWord) = words → examplesWord ∈ line →
        ran line = ⟨0, name.command.examplesText, "", none⟩) ∧
      ∀ after, examplesWord ∈ after →
        ran (words ++ "--" :: after) =
          runOperands (Settings.combined environment flags) time name (words ++ after) ∧
        (ran (words ++ "--" :: after)).code ≠ 0 ∧ (ran (words ++ "--" :: after)).out = "") ∧
    ∀ flag ∉ flags, ∀ text fault, environment.get? (Settings.variableName flag.field) = some text →
      Coercion.truthOfText text = .error fault →
        ∀ line, ∃ errors, ⟨flag.field, fault⟩ ∈ errors ∧ ran line = .unset errors := by
  intro ran
  refine ⟨fun valid => ?_, ?_⟩
  · have entered (line : List String) :
        ran line = runCommand (Settings.combined environment flags) time name line :=
      run_of_enters (enters_of_valid valid known flags line) time
    refine ⟨?_, ?_⟩
    · intro line inserted asked
      rw [entered, runCommand_of_request name _ _ (inserted ▸ operands) asked]
      rfl
    · intro after asked
      have same : ran (words ++ "--" :: after) = _ :=
        (entered _).trans (runCommand_of_dashes _ time operands after)
      refine ⟨same, ?_⟩
      rw [same]
      exact runOperands_of_examples _ _ (List.mem_append_right _ asked)
  · intro flag unset text fault set unread line
    obtain ⟨errors, told, lacking⟩ := unset_of_unread known unset set unread line
    exact ⟨errors, told, run_of_unset lacking time⟩

theorem run_of_examples_between :
    Operands ["~:10", "", "many"] ∧
      run [] "12:00" ["-v", "check", "~:10", "--examples", "", "many", "--examples"] =
        ⟨0, checkCommand.examplesText, "", none⟩ ∧
      (run [] "12:00" ["-v", "check", "~:10", "", "many", "--", "--examples"]).code ≠ 0 ∧
      ∃ errors, ⟨"quiet", .truthText⟩ ∈ errors ∧
        run [("NAGRANGE_QUIET", "maybe")] "12:00" ["-v", "check", "--examples"] = .unset errors := by
  have known : CommandName.ofWord? "check" = some .check := by decide
  have operands : Operands ["~:10", "", "many"] := by decide
  have valid : Environment.Valid [] := by
    intro field _ text set
    cases set
  obtain ⟨answered, dashed⟩ := (run_of_examples known [] "12:00" [.verbose] operands).1 valid
  have unset := (run_of_examples known [("NAGRANGE_QUIET", "maybe")] "12:00" [.verbose] operands).2
  exact ⟨operands, answered ["~:10", "--examples", "", "many", "--examples"] (by decide) (by decide),
    (dashed ["--examples"] (by decide)).2.1,
    unset .quiet (by decide) "maybe" .truthText (by decide) (by decide) ["--examples"]⟩

end AlertRange.CommandLine

import Mathlib
import AlertRange.CommandLine.Run

namespace AlertRange

namespace CommandLine

/-! ### Operands -/

def Numbers (words : List String) (numbers : List Binary64) : Prop :=
  List.Forall₂ (fun word number => readValue? word = some number) words numbers

/-- Operands in order: the text of the range they have, and what is asked about it. -/
inductive Asked : CommandName → List String → String → Report.Inquiry → Prop
  | parse (spec : String) : Asked .parse [spec] spec (Report.ofSpec spec)
  | check (spec : String) {words : List String} {numbers : List Binary64} (some : words ≠ [])
      (read : Numbers words numbers) :
      Asked .check (spec :: words) spec (Report.ofCheck spec (numbers.map .float))

inductive Misused : CommandName → List String → UsageFault → Prop
  | noSpec (name : CommandName) : Misused name [] (.missing "SPEC")
  | extra (spec word : String) (more : List String) :
      Misused .parse (spec :: word :: more) (.unexpected (word :: more))
  | noValues (spec : String) : Misused .check [spec] (.missing "VALUES...")
  | notNumber (spec : String) {before : List String} {numbers : List Binary64} (read : Numbers before numbers)
      {word : String} (other : readValue? word = none) (after : List String) :
      Misused .check (spec :: (before ++ word :: after)) (.notNumber "VALUES..." word)

theorem Numbers.ne_none {words : List String} {numbers : List Binary64} (read : Numbers words numbers) :
    ∀ word ∈ words, readValue? word ≠ none := by
  induction read with
  | nil => simp
  | cons first rest ih =>
    intro word member
    rcases List.mem_cons.mp member with rfl | later
    · simp [first]
    · exact ih word later

theorem readValues_of_numbers {words : List String} {numbers : List Binary64} (read : Numbers words numbers) :
    readValues words = .ok numbers := by
  induction read with
  | nil => rfl
  | cons first rest ih =>
    rw [readValues, first, ih]
    rfl

theorem readValues_of_other {before : List String} {numbers : List Binary64} (read : Numbers before numbers)
    {word : String} (other : readValue? word = none) (after : List String) :
    readValues (before ++ word :: after) = .error (.notNumber "VALUES..." word) := by
  induction read with
  | nil => rw [List.nil_append, readValues, other]
  | cons first rest ih =>
    rw [List.cons_append, readValues, first, ih]
    rfl

theorem numbers_or_first_other (words : List String) :
    (∃ numbers, Numbers words numbers) ∨
      ∃ before numbers word after, words = before ++ word :: after ∧ Numbers before numbers ∧
        readValue? word = none := by
  induction words with
  | nil => exact Or.inl ⟨[], .nil⟩
  | cons first rest ih =>
    cases read : readValue? first with
    | none => exact Or.inr ⟨[], [], first, rest, rfl, .nil, read⟩
    | some number =>
      rcases ih with ⟨numbers, all⟩ | ⟨before, numbers, word, after, rfl, some, other⟩
      · exact Or.inl ⟨number :: numbers, .cons read all⟩
      · exact Or.inr ⟨first :: before, number :: numbers, word, after, rfl, .cons read some, other⟩

variable {name : CommandName} {operands : List String}

theorem inquire_of_asked {spec : String} {inquiry : Report.Inquiry} (asked : Asked name operands spec inquiry) :
    name.inquire operands = .ok inquiry := by
  cases asked with
  | parse => rfl
  | check spec some read =>
    obtain ⟨word, more, rfl⟩ := List.exists_cons_of_ne_nil some
    rw [CommandName.inquire, checkOperands, readValues_of_numbers read]
    · rfl
    · simp

theorem inquire_of_misused {fault : UsageFault} (misused : Misused name operands fault) :
    name.inquire operands = .error fault := by
  cases misused with
  | noSpec => cases name <;> rfl
  | extra => rfl
  | noValues => rfl
  | notNumber spec read other after =>
    rw [CommandName.inquire, checkOperands, readValues_of_other read other]
    · rfl
    · simp

theorem asked_or_misused (name : CommandName) (operands : List String) :
    (∃ spec inquiry, Asked name operands spec inquiry) ∨ ∃ fault, Misused name operands fault := by
  cases operands with
  | nil => exact Or.inr ⟨_, .noSpec name⟩
  | cons spec words =>
    cases name with
    | parse =>
      cases words with
      | nil => exact Or.inl ⟨spec, _, .parse spec⟩
      | cons word more => exact Or.inr ⟨_, .extra spec word more⟩
    | check =>
      by_cases some : words = []
      · rw [some]
        exact Or.inr ⟨_, .noValues spec⟩
      · rcases numbers_or_first_other words with ⟨numbers, read⟩ | ⟨before, numbers, word, after, rfl, read, other⟩
        · exact Or.inl ⟨spec, _, .check spec some read⟩
        · exact Or.inr ⟨_, .notNumber spec read other after⟩

/-! ### Flags -/

namespace Flag

def word : Flag → String
  | .json => "--json"
  | .quiet => "-q"
  | .verbose => "-v"
  | .logJson => "--log-json"

def field : Flag → String
  | .json => "json_output"
  | .quiet => "quiet"
  | .verbose => "verbose"
  | .logJson => "log_json"

def settings (flags : List Flag) : Settings :=
  ⟨.json ∈ flags, .quiet ∈ flags, .verbose ∈ flags, .logJson ∈ flags⟩

theorem isWord_field (flag other : Flag) : Text.isWord flag.field other.field.toList = decide (flag = other) := by
  cases flag <;> cases other <;> decide

theorem field_mem_fieldNames (flag : Flag) : flag.field ∈ Settings.fieldNames := by
  cases flag <;> decide

end Flag

theorem flagFields_eq (found : Scan) :
    flagFields found = [.json, .quiet, .verbose, .logJson].map fun flag =>
      (Flag.field flag, .bool (found.has flag)) :=
  rfl

theorem scan_word (flag : Flag) (rest : List String) :
    scan rootCommand.switches false (flag.word :: rest) =
      (scan rootCommand.switches false rest).map fun more => ⟨.flag flag :: more.requests, more.operands⟩ := by
  have read : readOption rootCommand.switches flag.word = .ok [.flag flag] := by cases flag <;> decide
  have proper : flag.word ≠ "--" ∧ isOption flag.word = true := by cases flag <;> decide
  rw [scan, if_neg proper.1, if_pos proper.2, read]
  rfl

theorem scan_words (flags : List Flag) {word : String} (operand : isOption word = false) (rest : List String) :
    scan rootCommand.switches false (flags.map Flag.word ++ word :: rest) =
      .ok ⟨flags.map .flag, word :: rest⟩ := by
  induction flags with
  | nil =>
    have proper : word ≠ "--" := by
      rintro rfl
      cases operand
    rw [List.map_nil, List.nil_append, scan, if_neg proper, operand]
    rfl
  | cons flag flags ih =>
    rw [List.map_cons, List.cons_append, scan_word, ih]
    rfl

theorem eager?_flags (flags : List Flag) (operands : List String) :
    Scan.eager? ⟨flags.map .flag, operands⟩ = none := by
  rw [Scan.eager?, List.find?_map, Option.map_eq_none_iff, List.find?_eq_none]
  intro flag _
  simp [Request.isEager]

theorem has_flags (flags : List Flag) (operands : List String) (flag : Flag) :
    Scan.has ⟨flags.map .flag, operands⟩ flag = decide (flag ∈ flags) := by
  simp [Scan.has, List.contains_eq_mem]

theorem scan_dashes (switches : List Switch) (anywhere : Bool) (words : List String) :
    scan switches anywhere ("--" :: words) = .ok ⟨[], words⟩ := by
  rw [scan, if_pos rfl]

end CommandLine

/-! ### Settings -/

namespace Environment

/-- No variable of the environment is a setting. -/
def Silent (environment : Environment) : Prop :=
  ∀ field ∈ Settings.fieldNames, environment.get? (Settings.variableName field) = none

instance (environment : Environment) : Decidable environment.Silent :=
  inferInstanceAs (Decidable (∀ field ∈ Settings.fieldNames,
    environment.get? (Settings.variableName field) = none))

end Environment

namespace Settings

open CommandLine

variable (found : Scan)

theorem flag?_flagFields (flag : Flag) :
    flag? (flagFields found) flag.field = if found.has flag then some (.bool true) else none := by
  have truth (value : Bool) : (Value.bool value).isTruthy = value := rfl
  rw [flag?, setFlags, flagFields_eq, List.find?_filter, List.find?_map]
  simp only [Function.comp_def, truth, flag.isWord_field, List.find?_cons, List.find?_nil]
  cases set : found.has flag <;> cases flag <;> simp [set]

theorem unknownFlags_flagFields : unknownFlags (flagFields found) = [] := by
  rw [unknownFlags, List.filterMap_eq_nil_iff]
  intro pair member
  rw [flagFields_eq] at member
  obtain ⟨flag, -, rfl⟩ := List.mem_map.mp (List.mem_of_mem_filter member)
  have known : fieldNames.any (Text.isWord · flag.field.toList) = true := by cases flag <;> decide
  rw [known]
  rfl

variable {environment : Environment} (silent : environment.Silent)

include silent

theorem resolveField_of_silent (flag : Flag) :
    resolveField environment (flagFields found) flag.field = .ok (found.has flag) := by
  rw [resolveField, flag?_flagFields]
  cases found.has flag with
  | true => rfl
  | false =>
    rw [if_neg Bool.false_ne_true, silent flag.field flag.field_mem_fieldNames]

theorem resolve_of_silent :
    resolve environment (flagFields found) =
      .ok ⟨found.has .json, found.has .quiet, found.has .verbose, found.has .logJson⟩ := by
  have json : resolveField environment (flagFields found) "json_output" = _ :=
    resolveField_of_silent found silent .json
  have quiet : resolveField environment (flagFields found) "quiet" = _ :=
    resolveField_of_silent found silent .quiet
  have verbose : resolveField environment (flagFields found) "verbose" = _ :=
    resolveField_of_silent found silent .verbose
  have logJson : resolveField environment (flagFields found) "log_json" = _ :=
    resolveField_of_silent found silent .logJson
  rw [resolve, json, quiet, verbose, logJson, unknownFlags_flagFields]

end Settings

end AlertRange

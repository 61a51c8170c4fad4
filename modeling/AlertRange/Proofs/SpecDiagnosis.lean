import AlertRange.Proofs.FalseAlert
import AlertRange.Proofs.SessionInvariant
import AlertRange.Spec.Steps

namespace AlertRange.Spec

open Numeral (Dialect)

/-! ### Numbers of bounds -/

theorem map_withoutCase {cs : List Char} (plain : ∀ c ∈ cs, c ≠ '\u0130' ∧ c ≠ '\u0131') :
    cs.map withoutCase = cs := by
  have fixed : ∀ c ∈ cs, withoutCase c = c := by
    intro c member
    obtain ⟨notCapital, notSmall⟩ := plain c member
    rw [withoutCase, if_neg (by simp [notCapital, notSmall])]
  rw [List.map_congr_left fixed, List.map_id']

theorem valueDialect_number_iff {cs : List Char} {n : Numeral} :
    CommandLine.valueDialect.Number cs n ↔ boundDialect.Number cs n := by
  have values : CommandLine.valueDialect.Shares boundDialect cs := fun _ _ _ value => value
  have bounds : boundDialect.Shares CommandLine.valueDialect cs := fun _ _ _ value => value
  exact ⟨values.number, bounds.number⟩

theorem plain_of_number {cs : List Char} {n : Numeral} (token : boundDialect.Number cs n) :
    ∀ c ∈ cs, c ≠ '\u0130' ∧ c ≠ '\u0131' := by
  intro c member
  constructor <;> rintro rfl <;> exact Dialect.Foreign.not_mem (by decide) token member

theorem hasPattern_iff {cs : List Char} : hasPattern cs = true ↔
    ∃ n, boundDialect.Number (cs.map withoutCase) n := by
  rw [hasPattern, Option.isSome_iff_exists]
  simp only [Dialect.read?_eq_some_iff boundDialect_regular rfl]

theorem readNumber_of_number {word : String} {n : Numeral} (token : boundDialect.Number word.toList n) :
    readNumber word = .ok n.toBinary64 := by
  have pattern : hasPattern word.toList = true := by
    rw [hasPattern_iff, map_withoutCase (plain_of_number token)]
    exact ⟨n, token⟩
  rw [readNumber, if_pos pattern, CommandLine.readValue?_of_number (valueDialect_number_iff.mpr token)]

/-- A letter that only looks like an i keeps what has the pattern from being a value. -/
theorem readValue?_of_pattern {word : String} {n : Numeral}
    (pattern : boundDialect.Number (word.toList.map withoutCase) n)
    (special : ∃ c ∈ word.toList, c = '\u0130' ∨ c = '\u0131') : CommandLine.readValue? word = none := by
  -- all other letters stand in the token that the pattern has
  have known {c : Char} (member : c ∈ word.toList) : (c = '\u0130' ∨ c = '\u0131') ∨
    c ∈ word.toList.map withoutCase := by
    by_cases odd : c = '\u0130' ∨ c = '\u0131'
    · exact Or.inl odd
    · have fixed : withoutCase c = c := if_neg odd
      exact Or.inr (fixed ▸ List.mem_map_of_mem member)
  have solid : ∀ c ∈ word.toList, Text.isWhiteSpace c = false := by
    intro c member
    rcases known member with (rfl | rfl) | inside
    · decide
    · decide
    · rw [Bool.eq_false_iff]
      intro blank
      exact (CommandLine.foreign_of_isWhiteSpace blank).not_mem (valueDialect_number_iff.mpr pattern) inside
  have joined : '_' ∉ word.toList := by
    intro member
    rcases known member with (odd | odd) | inside
    · exact absurd odd (by decide)
    · exact absurd odd (by decide)
    · exact Dialect.Foreign.not_mem (by decide) pattern inside
  obtain ⟨c, member, odd⟩ := special
  rw [CommandLine.readValue?_of_plain solid joined, Option.map_eq_none_iff, Option.eq_none_iff_forall_ne_some]
  intro k found
  by_cases nan : k = .nan
  · rw [nan] at found
    obtain ⟨s, neg, letters, split, signed, spelled⟩ := Dialect.word_of_read?_nan found
    rw [split] at member
    rcases List.mem_append.mp member with sign | letter
    · have mark := Dialect.mem_sign signed sign
      rcases odd with rfl | rfl <;> simp at mark
    · have small := List.mem_map_of_mem (f := Char.toLower) letter
      rw [Text.isWord_iff.mp spelled] at small
      rcases odd with rfl | rfl <;> revert small <;> decide
  · have token := valueDialect_number_iff.mp (Dialect.number_of_read? _ found nan)
    obtain ⟨notCapital, notSmall⟩ := plain_of_number token c member
    exact odd.elim notCapital notSmall

theorem readNumber_of_other {word : String} (other : ∀ n, ¬ boundDialect.Number word.toList n) :
    readNumber word = .error (notNumber word) := by
  unfold readNumber
  split
  · next pattern =>
    obtain ⟨n, pattern⟩ := hasPattern_iff.mp pattern
    have special : ∃ c ∈ word.toList, c = '\u0130' ∨ c = '\u0131' := by
      by_contra plain
      rw [map_withoutCase] at pattern
      · exact other n pattern
      · intro c member
        constructor <;> rintro rfl <;> exact plain ⟨_, member, by simp⟩
    rw [readValue?_of_pattern pattern special]
  · rfl

theorem readBound_eq (side : Side) (token : List Char) :
    readBound side token = (readNumber (.ofList token)).mapError fun reason =>
      .bound side (.text (.ofList token)) (.text reason) := by
  unfold readBound
  split
  · next n found =>
    have number := (Dialect.read?_eq_some_iff boundDialect_regular rfl).mp found
    rw [readNumber_of_number (by rwa [String.toList_ofList])]
    rfl
  · next nothing =>
    rw [readNumber_of_other]
    · rfl
    · intro n number
      rw [String.toList_ofList] at number
      rw [(Dialect.read?_eq_some_iff boundDialect_regular rfl).mpr number] at nothing
      cases nothing

/-! ### What is wrong with a body -/

inductive Parts : List Char → Option (List Char) → List Char → Prop
  | whole {cs} (plain : ':' ∉ cs) : Parts cs none cs
  | around {low up} (first : ':' ∉ low) : Parts (low ++ ':' :: up) (some low) up

def IsLower (token : List Char) : Prop :=
  token = ['~'] ∨ ∃ n, boundDialect.Number token n

def IsUpper (token : List Char) : Prop :=
  token = [] ∨ ∃ n, boundDialect.Number token n

/-- What is wrong with a body: the fault, its message, and the error that it was raised from. -/
inductive Diagnosis (cs : List Char) : SpecFault → String → Option String → Prop
  | lower {low up} (parts : Parts cs (some low) up) (wrong : ¬ IsLower low) :
      Diagnosis cs (.bound .lower (.text (.ofList low)) (.text (notNumber (.ofList low))))
        ("failed to parse lower limit: " ++ notNumber (.ofList low)) (some (notNumber (.ofList low)))
  | upper {low up} (parts : Parts cs low up) (right : ∀ token ∈ low, IsLower token) (wrong : ¬ IsUpper up) :
      Diagnosis cs (.bound .upper (.text (.ofList up)) (.text (notNumber (.ofList up))))
        ("failed to parse upper limit: " ++ notNumber (.ofList up)) (some (notNumber (.ofList up)))
  | order {x y} (body : Body cs x y) (below : y < x) :
      Diagnosis cs (.order (.float x) (.float y))
        ("Invalid range definition. min <= max violated (" ++ x.text ++ " > " ++ y.text ++ ")") none

variable {cs core : List Char} {fault : SpecFault}

theorem parts_partsOf (cs : List Char) : Parts cs (partsOf cs).1 (partsOf cs).2 := by
  by_cases colon : ':' ∈ cs
  · obtain ⟨before, after, rfl, plain⟩ := List.eq_append_cons_of_mem colon
    obtain ⟨rest, front⟩ := split_of_colon after plain
    rw [partsOf, rest, front]
    exact .around plain
  · rw [partsOf, dropWhile_of_no_colon colon]
    exact .whole colon

def lowerOf : Option (List Char) → Except SpecFault Binary64
  | none => .ok .zero
  | some token => readLower token

theorem Parts.readBounds_eq {low : Option (List Char)} {up : List Char} (parts : Parts cs low up) :
    readBounds cs = (lowerOf low).bind fun x => (readUpper up).map (x, ·) := by
  cases parts with
  | whole plain => exact readBounds_of_no_colon plain
  | around first => exact readBounds_of_colon first

theorem readBound_eq_error_iff {side : Side} :
    readBound side cs = .error fault ↔ (∀ n, ¬ boundDialect.Number cs n) ∧
      fault = .bound side (.text (.ofList cs)) (.text (notNumber (.ofList cs))) := by
  unfold readBound
  split
  · next n found =>
    have token := (Dialect.read?_eq_some_iff boundDialect_regular rfl).mp found
    exact iff_of_false nofun fun refused => refused.1 n token
  · next nothing =>
    have none (n : Numeral) : ¬ boundDialect.Number cs n := by
      intro token
      rw [(Dialect.read?_eq_some_iff boundDialect_regular rfl).mpr token] at nothing
      cases nothing
    simp [none, eq_comm]

theorem readLower_eq_error_iff :
    readLower cs = .error fault ↔ ¬ IsLower cs ∧
      fault = .bound .lower (.text (.ofList cs)) (.text (notNumber (.ofList cs))) := by
  unfold readLower IsLower
  split
  · next tilde => simp [tilde]
  · next other => simp [other, readBound_eq_error_iff]

theorem readUpper_eq_error_iff :
    readUpper cs = .error fault ↔ ¬ IsUpper cs ∧
      fault = .bound .upper (.text (.ofList cs)) (.text (notNumber (.ofList cs))) := by
  unfold readUpper IsUpper
  split
  · next empty => simp [empty]
  · next other => simp [other, readBound_eq_error_iff]

theorem lowerOf_eq_error_iff {low : Option (List Char)} :
    lowerOf low = .error fault ↔ ∃ token, low = some token ∧ ¬ IsLower token ∧
      fault = .bound .lower (.text (.ofList token)) (.text (notNumber (.ofList token))) := by
  cases low with
  | none => simp [lowerOf]
  | some token => simp [lowerOf, readLower_eq_error_iff]

/-- Only a lower part that is no bound keeps a body from having a lower bound. -/
theorem exists_lowerOf_iff {low : Option (List Char)} :
    (∃ x, lowerOf low = .ok x) ↔ ∀ token ∈ low, IsLower token := by
  constructor
  · rintro ⟨x, found⟩ token rfl
    by_contra wrong
    rw [lowerOf, readLower_eq_error_iff.mpr ⟨wrong, rfl⟩] at found
    cases found
  · intro right
    cases found : lowerOf low with
    | ok x => exact ⟨x, rfl⟩
    | error fault =>
      obtain ⟨token, rfl, wrong, -⟩ := lowerOf_eq_error_iff.mp found
      exact absurd (right token rfl) wrong

theorem Diagnosis.message_eq {message : String} {cause : Option String}
    (diagnosis : Diagnosis cs fault message cause)
    (spec : String) : message = SpecError.message ⟨spec, fault⟩ ∧ cause = fault.cause? := by
  cases diagnosis with
  | lower parts wrong => exact ⟨rfl, rfl⟩
  | upper parts right wrong => exact ⟨rfl, rfl⟩
  | order body below => exact ⟨rfl, rfl⟩

theorem exists_diagnosis_of_readRange {invert : Bool} (refused : readRange invert cs = .error fault) :
    ∃ message cause, Diagnosis cs fault message cause := by
  have parts := parts_partsOf cs
  generalize (partsOf cs).1 = low at parts
  generalize (partsOf cs).2 = up at parts
  unfold readRange at refused
  cases bounds : readBounds cs with
  | error found =>
    rw [bounds] at refused
    cases refused
    rw [parts.readBounds_eq] at bounds
    cases lower : lowerOf low with
    | error found =>
      rw [lower] at bounds
      cases bounds
      obtain ⟨token, rfl, wrong, rfl⟩ := lowerOf_eq_error_iff.mp lower
      exact ⟨_, _, .lower parts wrong⟩
    | ok x =>
      have right := exists_lowerOf_iff.mp ⟨x, lower⟩
      rw [lower] at bounds
      cases upper : readUpper up with
      | error found =>
        rw [upper] at bounds
        cases bounds
        obtain ⟨wrong, rfl⟩ := readUpper_eq_error_iff.mp upper
        exact ⟨_, _, .upper parts right wrong⟩
      | ok y =>
        rw [upper] at bounds
        cases bounds
  | ok pair =>
    obtain ⟨x, y⟩ := pair
    have body := readBounds_eq_ok_iff.mp bounds
    rw [bounds] at refused
    simp only [Except.bind] at refused
    split at refused
    · cases refused
    · next disorder =>
      cases refused
      exact ⟨_, _, .order body (Binary64.lt_of_not_le body.ne_nan.1 body.ne_nan.2 disorder)⟩

theorem readRange_of_diagnosis {message : String} {cause : Option String}
    (diagnosis : Diagnosis cs fault message cause)
    (invert : Bool) : readRange invert cs = .error fault := by
  unfold readRange
  cases diagnosis with
  | lower parts wrong =>
    rw [parts.readBounds_eq, lowerOf, readLower_eq_error_iff.mpr ⟨wrong, rfl⟩]
    rfl
  | upper parts right wrong =>
    obtain ⟨x, lower⟩ := exists_lowerOf_iff.mpr right
    rw [parts.readBounds_eq, lower, readUpper_eq_error_iff.mpr ⟨wrong, rfl⟩]
    rfl
  | order body below =>
    rw [readBounds_of_body body]
    simp only [Except.bind]
    rw [dif_neg (Binary64.not_le_of_lt below)]

theorem readRange_eq_error_iff {invert : Bool} (spec : String) :
    readRange invert cs = .error fault ↔ Diagnosis cs fault (SpecError.message ⟨spec, fault⟩) fault.cause? := by
  constructor
  · intro refused
    obtain ⟨message, cause, diagnosis⟩ := exists_diagnosis_of_readRange refused
    obtain ⟨rfl, rfl⟩ := diagnosis.message_eq spec
    exact diagnosis
  · intro diagnosis
    exact readRange_of_diagnosis diagnosis invert

/-! ### What is wrong with a text -/

/-- A body is what follows a leading mark of inversion, or all of a text without one. -/
inductive Unmarked : List Char → List Char → Prop
  | inverted {body} : Unmarked ('@' :: body) body
  | plain {body} (unmarked : body.head? ≠ some '@') : Unmarked body body

theorem exists_unmarked (core : List Char) : ∃ body, Unmarked core body := by
  by_cases mark : core.head? = some '@'
  · obtain ⟨body, rfl⟩ := List.head?_eq_some_iff.mp mark
    exact ⟨body, .inverted⟩
  · exact ⟨core, .plain mark⟩

theorem Unmarked.readTrimmed_eq {core body : List Char} (unmarked : Unmarked core body) :
    ∃ invert, readTrimmed core = readRange invert body := by
  cases unmarked with
  | inverted => exact ⟨true, rfl⟩
  | plain unmarked => exact ⟨false, readTrimmed_of_plain unmarked⟩

theorem readTrimmed_eq_error_iff (spec : String) :
    readTrimmed core = .error fault ↔
      ∃ body, Unmarked core body ∧ Diagnosis body fault (SpecError.message ⟨spec, fault⟩) fault.cause? := by
  constructor
  · intro refused
    obtain ⟨body, unmarked⟩ := exists_unmarked core
    obtain ⟨invert, read⟩ := unmarked.readTrimmed_eq
    rw [read, readRange_eq_error_iff spec] at refused
    exact ⟨body, unmarked, refused⟩
  · rintro ⟨body, unmarked, diagnosis⟩
    obtain ⟨invert, read⟩ := unmarked.readTrimmed_eq
    rw [read, readRange_eq_error_iff spec]
    exact diagnosis

theorem parse_eq_error_iff {text : String} {error : SpecError} :
    parse text = .error error ↔
      readTrimmed (trimmed text) = .error error.fault ∧ error.spec = .ofList (trimmed text) := by
  obtain ⟨spec, fault⟩ := error
  rw [parse]
  cases readTrimmed (trimmed text) with
  | ok range => simp [Except.mapError]
  | error found => simp [Except.mapError, and_comm, eq_comm]

theorem Diagnosis.fault_cases {cs : List Char} {fault : SpecFault} {message : String} {cause : Option String}
    (diagnosis : Diagnosis cs fault message cause) :
    (∃ side token reason, fault = .bound side token reason) ∨ ∃ start stop, fault = .order start stop := by
  cases diagnosis with
  | lower parts wrong => exact Or.inl ⟨_, _, _, rfl⟩
  | upper parts right wrong => exact Or.inl ⟨_, _, _, rfl⟩
  | order body below => exact Or.inr ⟨_, _, rfl⟩

theorem fault_cases_of_parse {text : String} {error : SpecError} (refused : parse text = .error error) :
    (∃ side token reason, error.fault = .bound side token reason) ∨
      ∃ start stop, error.fault = .order start stop := by
  obtain ⟨body, -, diagnosis⟩ := (readTrimmed_eq_error_iff error.spec).mp (parse_eq_error_iff.mp refused).1
  exact diagnosis.fault_cases

/-! ### The steps of the reading -/

def stopOf (core : List Char) (fault : SpecFault) : ReadingStop :=
  .text ⟨.ofList core, fault⟩ fault.cause?

theorem boundStep_eq (core : List Char) (side : Side) (token : List Char) :
    boundStep core side token = (readBound side token).mapError (stopOf core) := by
  rw [boundStep, readBound_eq]
  cases readNumber (.ofList token) <;> rfl

theorem lowerStep_eq (core : List Char) (low : Option (List Char)) :
    lowerStep core low = (lowerOf low).mapError (stopOf core) := by
  cases low with
  | none => rfl
  | some token =>
    rw [lowerStep, lowerOf, readLower, boundStep_eq]
    split <;> rfl

theorem upperStep_eq (core token : List Char) :
    upperStep core token = (readUpper token).mapError (stopOf core) := by
  rw [upperStep, readUpper, boundStep_eq]
  split <;> rfl

/-- The range that is made of two bounds in order passes the checks of its fields. -/
theorem makeStep_eq (core : List Char) {x y : Binary64} (number : x ≠ .nan) (number' : y ≠ .nan) (invert : Bool) :
    makeStep core x y invert =
      if ordered : x ≤ y then .ok ⟨x, y, invert, ordered⟩
      else .error (stopOf core (.order (.float x) (.float y))) := by
  unfold makeStep
  by_cases ordered : x ≤ y
  · have made : Range.ofFields [("start", .float x), ("end", .float y), ("invert", .bool invert)] =
        .ok ⟨x, y, invert, ordered⟩ := Range.ofFields_eq_ok_iff.mpr ⟨rfl, rfl, rfl⟩
    rw [dif_pos ordered, if_neg fun below => Binary64.not_le_of_lt below ordered, made]
    rfl
  · rw [dif_neg ordered, if_pos (Binary64.lt_of_not_le number number' ordered)]
    rfl

theorem bodySteps_eq (core : List Char) (invert : Bool) (cs : List Char) :
    bodySteps core invert cs = (readRange invert cs).mapError (stopOf core) := by
  have bounds := (parts_partsOf cs).readBounds_eq
  rw [bodySteps, readRange, lowerStep_eq, upperStep_eq, bounds]
  cases lower : lowerOf (partsOf cs).1 with
  | error fault => rfl
  | ok x =>
    cases upper : readUpper (partsOf cs).2 with
    | error fault => rfl
    | ok y =>
      rw [lower, upper] at bounds
      obtain ⟨number, number'⟩ := (readBounds_eq_ok_iff.mp bounds).ne_nan
      change makeStep core x y invert = _
      rw [makeStep_eq core number number']
      by_cases ordered : x ≤ y
      · simp [Except.bind, Except.map, Except.mapError, ordered]
      · simp [Except.bind, Except.map, Except.mapError, ordered]

theorem trimmedSteps_of_plain (plain : core.head? ≠ some '@') : trimmedSteps core = bodySteps core false core := by
  unfold trimmedSteps
  split
  · exact absurd rfl plain
  · rfl

theorem trimmedSteps_eq (core : List Char) : trimmedSteps core = (readTrimmed core).mapError (stopOf core) := by
  obtain ⟨body, unmarked⟩ := exists_unmarked core
  cases unmarked with
  | inverted => exact bodySteps_eq _ true body
  | plain unmarked =>
    rw [trimmedSteps_of_plain unmarked, readTrimmed_of_plain unmarked]
    exact bodySteps_eq core false core

theorem parseInSteps_eq (text : String) :
    parseInSteps text = (parse text).mapError fun error => .text error error.fault.cause? := by
  rw [parseInSteps, trimmedSteps_eq, parse]
  cases readTrimmed (trimmed text) <;> rfl

/-- A text is refused exactly if something is wrong with it: its lower part is no bound, or else its upper
part is none, or else its end lies below its start. The error holds the text without its margins, the part
that is no bound or the two bounds, and says so in its message. Nothing else ends the reading, and a bound is
refused because of the error that is its reason. -/
theorem parse_eq_error_iff_diagnosis (text : String) :
    (∀ error, parse text = .error error ↔
      ∃ core body, Text.TrimsTo isMargin text.toList core ∧ Unmarked core body ∧ error.spec = .ofList core ∧
        Diagnosis body error.fault error.message error.fault.cause?) ∧
    parseInSteps text = (parse text).mapError fun error => .text error error.fault.cause? := by
  refine ⟨?_, parseInSteps_eq text⟩
  intro error
  rw [parse_eq_error_iff, readTrimmed_eq_error_iff error.spec]
  constructor
  · rintro ⟨⟨body, unmarked, diagnosis⟩, spec⟩
    exact ⟨_, body, Text.trimsTo_iff.mpr rfl, unmarked, spec, diagnosis⟩
  · rintro ⟨core, body, trims, unmarked, spec, diagnosis⟩
    obtain rfl : trimmed text = core := Text.trimsTo_iff.mp trims
    exact ⟨⟨body, unmarked, diagnosis⟩, spec⟩

end AlertRange.Spec

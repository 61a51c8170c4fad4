import AlertRange.Proofs.SpecDiagnosis

namespace AlertRange.Spec

open Numeral (Dialect Sign)
open scoped Computability

namespace Pattern

def oneOf (test : Char → Prop) : Language Char :=
  {cs | ∃ c, test c ∧ cs = [c]}

def inAnyCase (word : String) : Language Char :=
  {cs | Text.isWord word (cs.map withoutCase) = true}

def signMark : Language Char :=
  oneOf fun c => c = '+' ∨ c = '-'

def point : Language Char :=
  oneOf fun c => c = '.'

def digit : Language Char :=
  oneOf fun c => Text.isDigit c = true

def digits : Language Char :=
  digit * digit∗

def mantissa : Language Char :=
  digits * ((1 + point) * digit∗) + point * digits

def powerMark : Language Char :=
  oneOf fun c => c = 'e' ∨ c = 'E'

def power : Language Char :=
  powerMark * ((1 + signMark) * digits)

def infinityWord : Language Char :=
  inAnyCase "inf" * (1 + inAnyCase "inity")

/-- The pattern of number tokens, part by part; `1 + l` is a part `l` that may be left out. -/
def number : Language Char :=
  (1 + signMark) * (mantissa * (1 + power) + infinityWord)

variable {cs : List Char} {l m : Language Char} {test : Char → Prop}

theorem mem_optional : cs ∈ 1 + l ↔ cs = [] ∨ cs ∈ l := by
  rw [Language.mem_add, Language.mem_one]

theorem mem_kstar_oneOf : cs ∈ (oneOf test)∗ ↔ ∀ c ∈ cs, test c := by
  constructor
  · intro found c member
    obtain ⟨parts, rfl, single⟩ := Language.mem_kstar.mp found
    obtain ⟨part, inside, member⟩ := List.mem_flatten.mp member
    obtain ⟨d, passes, rfl⟩ := single part inside
    rwa [List.mem_singleton.mp member]
  · intro passes
    refine Language.mem_kstar.mpr ⟨cs.map ([·]), ?_, ?_⟩
    · rw [← List.flatMap_def, List.flatMap_singleton']
    · intro part inside
      obtain ⟨c, member, rfl⟩ := List.mem_map.mp inside
      exact ⟨c, passes c member, rfl⟩

theorem mem_digits : cs ∈ digits ↔ cs ≠ [] ∧ ∀ c ∈ cs, Text.isDigit c = true := by
  rw [digits, Language.mem_mul]
  constructor
  · rintro ⟨_, ⟨first, isDigit, rfl⟩, rest, more, rfl⟩
    refine ⟨by simp, ?_⟩
    intro c member
    rcases List.mem_cons.mp member with rfl | later
    · exact isDigit
    · exact mem_kstar_oneOf.mp more c later
  · rintro ⟨nonempty, all⟩
    obtain ⟨first, rest, rfl⟩ := List.exists_cons_of_ne_nil nonempty
    refine ⟨[first], ⟨first, all first List.mem_cons_self, rfl⟩, rest, ?_, rfl⟩
    exact mem_kstar_oneOf.mpr fun c member => all c (List.mem_cons_of_mem first member)

/-! ### Letters that count as an i -/

theorem withoutCase_cases (c : Char) :
    (c ≠ '\u0130' ∧ c ≠ '\u0131') ∧ withoutCase c = c ∨ (c = '\u0130' ∨ c = '\u0131') ∧ withoutCase c = 'i' := by
  by_cases odd : c = '\u0130' ∨ c = '\u0131'
  · exact Or.inr ⟨odd, if_pos odd⟩
  · exact Or.inl ⟨not_or.mp odd, if_neg odd⟩

theorem withoutCase_plain (c : Char) : withoutCase c ≠ '\u0130' ∧ withoutCase c ≠ '\u0131' := by
  rcases withoutCase_cases c with ⟨plain, fixed⟩ | ⟨-, letter⟩
  · rwa [fixed]
  · rw [letter]
    decide

/-- A language that does not tell the letters apart which count as an i. -/
def Folded (l : Language Char) : Prop :=
  ∀ cs : List Char, cs.map withoutCase ∈ l ↔ cs ∈ l

theorem folded_one : Folded 1 := by
  intro cs
  rw [Language.mem_one, Language.mem_one, List.map_eq_nil_iff]

theorem folded_inAnyCase (word : String) : Folded (inAnyCase word) := by
  intro cs
  have twice : (cs.map withoutCase).map withoutCase = cs.map withoutCase := by
    apply map_withoutCase
    intro c member
    obtain ⟨d, -, rfl⟩ := List.mem_map.mp member
    exact withoutCase_plain d
  change Text.isWord word ((cs.map withoutCase).map withoutCase) = true ↔ _
  rw [twice]
  rfl

section Class

variable (apart : ¬ test 'i' ∧ ¬ test '\u0130' ∧ ¬ test '\u0131')
include apart

theorem test_withoutCase (c : Char) : test (withoutCase c) ↔ test c := by
  obtain ⟨letter, capital, small⟩ := apart
  rcases withoutCase_cases c with ⟨-, fixed⟩ | ⟨rfl | rfl, folded⟩
  · rw [fixed]
  · rw [folded]
    exact iff_of_false letter capital
  · rw [folded]
    exact iff_of_false letter small

theorem folded_oneOf : Folded (oneOf test) := by
  intro cs
  constructor
  · rintro ⟨d, passes, text⟩
    obtain ⟨c, rfl, rfl⟩ := List.map_eq_singleton_iff.mp text
    exact ⟨c, (test_withoutCase apart c).mp passes, rfl⟩
  · rintro ⟨c, passes, rfl⟩
    exact ⟨withoutCase c, (test_withoutCase apart c).mpr passes, rfl⟩

theorem folded_kstar_oneOf : Folded (oneOf test)∗ := by
  intro cs
  simp only [mem_kstar_oneOf, List.forall_mem_map, test_withoutCase apart]

end Class

theorem Folded.add (first : Folded l) (second : Folded m) : Folded (l + m) := by
  intro cs
  rw [Language.mem_add, Language.mem_add, first cs, second cs]

theorem Folded.mul (first : Folded l) (second : Folded m) : Folded (l * m) := by
  intro cs
  constructor
  · rintro ⟨a, left, b, right, split⟩
    obtain ⟨a, b, rfl, rfl, rfl⟩ := List.map_eq_append_iff.mp split.symm
    exact ⟨a, (first a).mp left, b, (second b).mp right, rfl⟩
  · rintro ⟨a, left, b, right, rfl⟩
    exact ⟨_, (first a).mpr left, _, (second b).mpr right, List.map_append.symm⟩

theorem folded_number : Folded number := by
  have sign : Folded signMark := folded_oneOf (by decide)
  have mark : Folded point := folded_oneOf (by decide)
  have letter : Folded powerMark := folded_oneOf (by decide)
  have first : Folded digit := folded_oneOf (by decide)
  have more : Folded digit∗ := folded_kstar_oneOf (by decide)
  have row : Folded digits := first.mul more
  have whole : Folded mantissa := (row.mul ((folded_one.add mark).mul more)).add (mark.mul row)
  have scaled : Folded power := letter.mul ((folded_one.add sign).mul row)
  have word : Folded infinityWord := (folded_inAnyCase _).mul (folded_one.add (folded_inAnyCase _))
  exact (folded_one.add sign).mul ((whole.mul (folded_one.add scaled)).add word)

/-! ### The pattern and the grammar of tokens -/

theorem exists_sign_iff : (∃ neg, Sign cs neg) ↔ cs ∈ 1 + signMark := by
  rw [mem_optional]
  constructor
  · rintro ⟨_, signed⟩
    cases signed with
    | absent => exact Or.inl rfl
    | plus => exact Or.inr ⟨'+', Or.inl rfl, rfl⟩
    | minus => exact Or.inr ⟨'-', Or.inr rfl, rfl⟩
  · rintro (rfl | ⟨c, rfl | rfl, rfl⟩)
    · exact ⟨false, .absent⟩
    · exact ⟨false, .plus⟩
    · exact ⟨true, .minus⟩

theorem exists_digits_iff : (∃ ds, boundDialect.Digits cs ds) ↔ ∀ c ∈ cs, Text.isDigit c = true := by
  constructor
  · rintro ⟨ds, row⟩ c member
    obtain ⟨d, value⟩ := Dialect.digitValue?_of_mem row member
    exact Option.isSome_iff_exists.mpr ⟨d, value⟩
  · intro all
    refine ⟨cs.map fun c => (Text.digitValue? c).getD 0, ?_⟩
    rw [Dialect.Digits, List.forall₂_map_right_iff, List.forall₂_same]
    intro c member
    obtain ⟨d, value⟩ := Option.isSome_iff_exists.mp (all c member)
    change Text.digitValue? c = _
    rw [value, Option.getD_some]

theorem exists_row_iff : (∃ ds, boundDialect.Digits cs ds ∧ ds ≠ []) ↔ cs ∈ digits := by
  have nonempty {ds : List Nat} (row : boundDialect.Digits cs ds) : ds ≠ [] ↔ cs ≠ [] := by
    cases row <;> simp
  rw [mem_digits, ← exists_digits_iff]
  constructor
  · rintro ⟨ds, row, some⟩
    exact ⟨(nonempty row).mp some, ds, row⟩
  · rintro ⟨some, ds, row⟩
    exact ⟨ds, row, (nonempty row).mpr some⟩

theorem exists_mantissa_iff : (∃ ds places, boundDialect.Mantissa cs ds places) ↔ cs ∈ mantissa := by
  constructor
  · rintro ⟨_, _, body⟩
    cases body with
    | whole row some =>
      have front := exists_row_iff.mp ⟨_, row, some⟩
      exact Or.inl ⟨cs, front, [], ⟨[], mem_optional.mpr (Or.inl rfl), [], Language.nil_mem_kstar _, rfl⟩, by simp⟩
    | @point whole _ places _ row some fraction =>
      have front := exists_row_iff.mp ⟨_, row, some⟩
      have back := mem_kstar_oneOf.mpr (exists_digits_iff.mp ⟨_, fraction⟩)
      exact Or.inl ⟨whole, front, '.' :: places,
        ⟨['.'], mem_optional.mpr (Or.inr ⟨'.', rfl, rfl⟩), places, back, rfl⟩, rfl⟩
    | @fraction places _ row some =>
      exact Or.inr ⟨['.'], ⟨'.', rfl, rfl⟩, places, exists_row_iff.mp ⟨_, row, some⟩, rfl⟩
  · rintro (⟨whole, front, _, ⟨mark, pointed, places, back, rfl⟩, rfl⟩ | ⟨_, ⟨c, rfl, rfl⟩, places, back, rfl⟩)
    · obtain ⟨ds, row, some⟩ := exists_row_iff.mpr front
      obtain ⟨es, fraction⟩ := exists_digits_iff.mpr (mem_kstar_oneOf.mp back)
      rcases mem_optional.mp pointed with rfl | ⟨c, rfl, rfl⟩
      · -- without a point between them both rows of digits are one
        exact ⟨ds ++ es, 0, .whole (List.rel_append row fraction) (by simp [some])⟩
      · exact ⟨_, _, .point row some fraction⟩
    · obtain ⟨es, fraction, some⟩ := exists_row_iff.mpr back
      exact ⟨_, _, .fraction fraction some⟩

theorem exists_power_iff : (∃ p, boundDialect.Power cs p) ↔ cs ∈ 1 + power := by
  rw [mem_optional]
  constructor
  · rintro ⟨_, scaled⟩
    cases scaled with
    | absent => exact Or.inl rfl
    | @given letter _ _ _ _ mark signed row some =>
      have sign := exists_sign_iff.mp ⟨_, signed⟩
      have exponent := exists_row_iff.mp ⟨_, row, some⟩
      exact Or.inr ⟨[letter], ⟨letter, mark, rfl⟩, _, Language.append_mem_mul sign exponent, rfl⟩
  · rintro (rfl | ⟨_, ⟨letter, mark, rfl⟩, _, ⟨sign, signed, exponent, row, rfl⟩, rfl⟩)
    · exact ⟨0, .absent⟩
    · obtain ⟨neg, signed⟩ := exists_sign_iff.mpr signed
      obtain ⟨ds, row, some⟩ := exists_row_iff.mpr row
      have scaled : boundDialect.Power (letter :: (sign ++ exponent)) _ := .given mark signed row some
      exact ⟨_, scaled⟩

theorem word_iff :
    Text.isWord "inf" (cs.map withoutCase) = true ∨ Text.isWord "infinity" (cs.map withoutCase) = true ↔
      cs ∈ infinityWord := by
  rw [infinityWord, Language.mem_mul]
  constructor
  · rintro (short | long)
    · exact ⟨cs, short, [], mem_optional.mpr (Or.inl rfl), List.append_nil cs⟩
    · have letters : cs.map (Char.toLower ∘ withoutCase) = "inf".toList ++ "inity".toList := by
        rw [← List.map_map, Text.isWord_iff.mp long]
        decide
      obtain ⟨front, back, rfl, first, second⟩ := List.map_eq_append_iff.mp letters
      rw [← List.map_map] at first second
      exact ⟨front, Text.isWord_iff.mpr first, back, mem_optional.mpr (Or.inr (Text.isWord_iff.mpr second)), rfl⟩
  · rintro ⟨front, first, back, second, rfl⟩
    rcases mem_optional.mp second with rfl | second
    · rw [List.append_nil]
      exact Or.inl first
    · right
      rw [Text.isWord_iff, List.map_append, List.map_append, Text.isWord_iff.mp first, Text.isWord_iff.mp second]
      decide

theorem mem_of_number {n : Numeral} (token : boundDialect.Number cs n) : cs ∈ number := by
  have plain := plain_of_number token
  cases token with
  | decimal signed body scaled =>
    have sign := exists_sign_iff.mp ⟨_, signed⟩
    have whole := exists_mantissa_iff.mp ⟨_, _, body⟩
    have power := exists_power_iff.mp ⟨_, scaled⟩
    exact Language.append_mem_mul sign (Or.inl (Language.append_mem_mul whole power))
  | @infinite s _ word signed named =>
    have sign := exists_sign_iff.mp ⟨_, signed⟩
    have fixed := map_withoutCase fun c member => plain c (List.mem_append_right s member)
    rw [← fixed] at named
    exact Language.append_mem_mul sign (Or.inr (word_iff.mp named))

theorem exists_number_of_mem (plain : ∀ c ∈ cs, c ≠ '\u0130' ∧ c ≠ '\u0131') (pattern : cs ∈ number) :
    ∃ n, boundDialect.Number cs n := by
  obtain ⟨s, sign, _, ⟨whole, mantissa, power, scaled, rfl⟩ | word, rfl⟩ := pattern
  · obtain ⟨neg, signed⟩ := exists_sign_iff.mpr sign
    obtain ⟨ds, places, mantissa⟩ := exists_mantissa_iff.mpr mantissa
    obtain ⟨p, scaled⟩ := exists_power_iff.mpr scaled
    exact ⟨_, .decimal signed mantissa scaled⟩
  · obtain ⟨neg, signed⟩ := exists_sign_iff.mpr sign
    have named := word_iff.mpr word
    rw [map_withoutCase fun c member => plain c (List.mem_append_right s member)] at named
    exact ⟨_, .infinite signed named⟩

end Pattern

/-! ### The two recognizers -/

theorem hasPattern_iff_mem {cs : List Char} : hasPattern cs = true ↔ cs ∈ Pattern.number := by
  rw [hasPattern_iff, ← Pattern.folded_number cs]
  constructor
  · rintro ⟨n, token⟩
    exact Pattern.mem_of_number token
  · apply Pattern.exists_number_of_mem
    intro c member
    obtain ⟨d, -, rfl⟩ := List.mem_map.mp member
    exact Pattern.withoutCase_plain d

theorem exists_number_iff {cs : List Char} :
    (∃ n, boundDialect.Number cs n) ↔ cs ∈ Pattern.number ∧ '\u0130' ∉ cs ∧ '\u0131' ∉ cs := by
  constructor
  · rintro ⟨n, token⟩
    have plain := plain_of_number token
    exact ⟨Pattern.mem_of_number token, fun member => (plain _ member).1 rfl, fun member => (plain _ member).2 rfl⟩
  · rintro ⟨pattern, capital, small⟩
    apply Pattern.exists_number_of_mem _ pattern
    intro c member
    constructor <;> rintro rfl <;> contradiction

theorem readNumber_cases (token : String) :
    (∃ n, boundDialect.Number token.toList n ∧ readNumber token = .ok n.toBinary64) ∨
      readNumber token = .error (notNumber token) := by
  by_cases found : ∃ n, boundDialect.Number token.toList n
  · obtain ⟨n, number⟩ := found
    exact Or.inl ⟨n, number, readNumber_of_number number⟩
  · exact Or.inr (readNumber_of_other (not_exists.mp found))

/-- A text is tested for the pattern and then read as a value. What has the pattern is a value and no NaN, but
for the two letters that count as an i in the pattern and are none in a value. All else is refused, by the
pattern or by the reader of values, with one message for each text; and a bound is read as its number is. -/
theorem recognizers_agree (token : String) :
    (hasPattern token.toList = true ↔ token.toList ∈ Pattern.number) ∧
    (token.toList ∈ Pattern.number ∧ '\u0130' ∉ token.toList ∧ '\u0131' ∉ token.toList →
      ∃ x, CommandLine.readValue? token = some x ∧ x ≠ .nan ∧ readNumber token = .ok x) ∧
    (¬ (token.toList ∈ Pattern.number ∧ '\u0130' ∉ token.toList ∧ '\u0131' ∉ token.toList) →
      readNumber token = .error ("could not convert string to float: " ++ Text.quoted token)) ∧
    (token.toList ∈ Pattern.number ∧ ('\u0130' ∈ token.toList ∨ '\u0131' ∈ token.toList) →
      CommandLine.readValue? token = none) ∧
    (readNumber token ≠ .ok .nan ∧ ∀ reason, readNumber token = .error reason →
      reason = "could not convert string to float: " ++ Text.quoted token) ∧
    ∀ side, readBound side token.toList =
      (readNumber token).mapError fun reason => .bound side (.text token) (.text reason) := by
  refine ⟨hasPattern_iff_mem, ?_, ?_, ?_, ?_, ?_⟩
  · intro plain
    obtain ⟨n, number⟩ := exists_number_iff.mpr plain
    have value := CommandLine.readValue?_of_number (valueDialect_number_iff.mpr number)
    exact ⟨_, value, toBinary64_ne_nan number, readNumber_of_number number⟩
  · intro other
    rcases readNumber_cases token with ⟨n, number, -⟩ | refused
    · exact absurd (exists_number_iff.mp ⟨n, number⟩) other
    · exact refused
  · rintro ⟨pattern, special⟩
    obtain ⟨n, folded⟩ := hasPattern_iff.mp (hasPattern_iff_mem.mpr pattern)
    apply readValue?_of_pattern folded
    rcases special with capital | small
    · exact ⟨_, capital, Or.inl rfl⟩
    · exact ⟨_, small, Or.inr rfl⟩
  · rcases readNumber_cases token with ⟨n, number, read⟩ | refused
    · rw [read]
      exact ⟨fun nan => toBinary64_ne_nan number (Except.ok.inj nan), nofun⟩
    · rw [refused]
      exact ⟨nofun, fun reason equal => (Except.error.inj equal).symm⟩
  · intro side
    rw [readBound_eq, String.ofList_toList]

/-- A digit of another script is read as a value; an i without a dot has the pattern and is none. -/
theorem recognizers_agree_dotless :
    ("\u0663".toList ∈ Pattern.number ∧ '\u0130' ∉ "\u0663".toList ∧ '\u0131' ∉ "\u0663".toList) ∧
    (∃ x, CommandLine.readValue? "\u0663" = some x ∧ x ≠ .nan ∧ readNumber "\u0663" = .ok x) ∧
    ("\u0131nf".toList ∈ Pattern.number ∧ ('\u0130' ∈ "\u0131nf".toList ∨ '\u0131' ∈ "\u0131nf".toList)) ∧
    CommandLine.readValue? "\u0131nf" = none := by
  obtain ⟨pattern, value, -⟩ := recognizers_agree "\u0663"
  obtain ⟨pattern', -, -, noValue, -⟩ := recognizers_agree "\u0131nf"
  have plain : '\u0130' ∉ "\u0663".toList ∧ '\u0131' ∉ "\u0663".toList := by decide
  have special : '\u0130' ∈ "\u0131nf".toList ∨ '\u0131' ∈ "\u0131nf".toList := by decide
  have inside := pattern.mp (by decide +kernel)
  have inside' := pattern'.mp (by decide +kernel)
  exact ⟨⟨inside, plain⟩, value ⟨inside, plain⟩, ⟨inside', special⟩, noValue ⟨inside', special⟩⟩

end AlertRange.Spec

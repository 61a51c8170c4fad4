import AlertRange.Json.Reader
import AlertRange.Proofs.WrittenText

namespace AlertRange

open Numeral (Dialect Sign ofDigits)

namespace Json

theorem dialect_regular : dialect.Regular :=
  ⟨Coercion.fieldDialect_regular.ascii, Coercion.fieldDialect_regular.code⟩

def signText (neg : Bool) : List Char :=
  if neg then ['-'] else []

theorem sign_signText (neg : Bool) : Sign (signText neg) neg := by
  cases neg with
  | false => exact .absent
  | true => exact .minus

def Leading (ds : List Nat) : Prop :=
  ds ≠ [] ∧ (ds = [0] ∨ ds.head? ≠ some 0)

theorem Leading.not_refused {ds : List Nat} (leading : Leading ds) :
    ¬ (ds = [] ∨ (ds.head? = some 0 ∧ ds ≠ [0])) := by
  rintro (none | ⟨zero, more⟩)
  · exact leading.1 none
  · rcases leading.2 with alone | other
    · exact more alone
    · exact other zero

variable {cs : List Char} {ds : List Nat}

theorem head_of_digits (digits : dialect.Digits cs ds) (some : ds ≠ []) (rest : List Char) :
    ∃ c more, cs ++ rest = c :: more ∧ c ≠ '-' ∧ c ≠ '+' := by
  obtain ⟨c, more, text, code⟩ := Dialect.digits_head dialect_regular digits some rest
  refine ⟨c, more, text, ?_, ?_⟩ <;> rintro rfl <;> revert code <;> decide

theorem minus_append (digits : dialect.Digits cs ds) (some : ds ≠ []) (neg : Bool) (rest : List Char) :
    minus (signText neg ++ (cs ++ rest)) = (neg, cs ++ rest) := by
  obtain ⟨c, more, text, plain, -⟩ := head_of_digits digits some rest
  rw [text]
  cases neg with
  | true => rfl
  | false =>
    change minus (c :: more) = _
    rw [minus]
    intro _ equal
    exact plain (List.cons.inj equal).1

theorem number?_whole (digits : dialect.Digits cs ds) (leading : Leading ds) (neg : Bool) :
    number? (signText neg ++ cs) = some (.int (Binary64.signed neg (ofDigits ds))) := by
  have unsigned := minus_append digits leading.1 neg []
  have run : dialect.digitRun (cs ++ []) = (ds, []) := Dialect.digitRun_append digits (by simp)
  rw [List.append_nil] at unsigned run
  have kept := leading.not_refused
  simp only [number?, unsigned, run]
  rw [if_neg (by simpa using kept), if_pos trivial]

structure Tail (rest : List Char) : Prop where
  some : rest ≠ []
  stop : ∀ c, rest.head? = Option.some c → dialect.digitValue? c = none
  places : rest.head? = Option.some '.' → (dialect.fraction rest).1 ≠ []

theorem number?_tail (digits : dialect.Digits cs ds) (leading : Leading ds) (neg : Bool) {rest : List Char}
    (tail : Tail rest) :
    number? (signText neg ++ (cs ++ rest)) = (dialect.decimal? neg (cs ++ rest)).map (.float ·.toBinary64) := by
  have kept : ¬ (ds = [] ∨ (ds.head? = some 0 ∧ ds ≠ [0]) ∨
    (rest.head? = some '.' ∧ (dialect.fraction rest).1 = [])) := by
    rintro (none | zero | ⟨point, none⟩)
    · exact leading.1 none
    · exact leading.not_refused (Or.inr zero)
    · exact tail.places point none
  simp only [number?, minus_append digits leading.1 neg rest, Dialect.digitRun_append digits tail.stop]
  rw [if_neg kept, if_neg tail.some]

/-! ### Whole numbers -/

theorem exists_leading_toDigits (n : Nat) :
    ∃ ds, dialect.Digits (Nat.toDigits 10 n) ds ∧ Leading ds ∧ ofDigits ds = n := by
  obtain ⟨ds, text, digits, some, value⟩ := Numeral.exists_toDigits n
  rw [text]
  refine ⟨ds, dialect_regular.digits digits, ⟨some, ?_⟩, value⟩
  by_cases zero : n = 0
  · subst zero
    have lone : ds.map Nat.digitChar = [Nat.digitChar 0] := text.symm
    left
    obtain ⟨d, rfl⟩ := List.length_eq_one_iff.mp (by simpa using congrArg List.length lone)
    simpa [ofDigits] using value
  · right
    intro head
    apply Numeral.head?_toDigits zero
    rw [text, List.head?_map, head]
    rfl

theorem number?_intDigits (n : Int) : number? (intDigits n) = some (.int n) := by
  cases n with
  | ofNat k =>
    obtain ⟨ds, digits, leading, value⟩ := exists_leading_toDigits k
    have read := number?_whole digits leading false
    rw [value] at read
    exact read
  | negSucc k =>
    obtain ⟨ds, digits, leading, value⟩ := exists_leading_toDigits (k + 1)
    have read := number?_whole digits leading true
    rw [value] at read
    exact read

/-! ### Doubles -/

theorem tail_point {es : List Nat} (digits : ∀ d ∈ es, d < 10) (some : es ≠ []) {power : List Char} {p : Int}
    (scaled : dialect.Power power p) : Tail ('.' :: (es.map Nat.digitChar ++ power)) where
  some := by simp
  stop c head := by
    cases head
    rfl
  places _ := by
    have stop c (head : power.head? = Option.some c) := (Dialect.power_head dialect_regular scaled c head).1
    rw [Dialect.fraction, Dialect.digitRun_append (dialect_regular.digits digits) stop]
    exact some

theorem tail_power {c : Char} {power : List Char} {p : Int} (scaled : dialect.Power (c :: power) p) :
    Tail (c :: power) where
  some := by simp
  stop c head := (Dialect.power_head dialect_regular scaled c head).1
  places head := absurd rfl (Dialect.power_head dialect_regular scaled '.' head).2

/-- Significant digits are read as the whole digits of a number and what stands after them. -/
theorem exists_tail_digits (layout : Layout) (digits : ∀ d ∈ ds, d < 10) (some : ds ≠ [])
    (lead : ds.head? ≠ Option.some 0) (exponent : Int) {text : List Char}
    (written : text = Layout.positional (ds.map Nat.digitChar) exponent ∨
      text = layout.scientific (ds.map Nat.digitChar) exponent) :
    ∃ cs whole rest, text = cs ++ rest ∧ dialect.Digits cs whole ∧ Leading whole ∧ Tail rest := by
  rcases written with rfl | rfl
  · obtain ⟨whole, places, split, bounded, someWhole, -, around⟩ := Layout.positional_split digits exponent
    obtain ⟨somePlaces, first⟩ := around some
    have before : ∀ d ∈ whole, d < 10 := fun d member => bounded d (List.mem_append_left places member)
    have after : ∀ d ∈ places, d < 10 := fun d member => bounded d (List.mem_append_right whole member)
    have tail := tail_point after somePlaces .absent
    rw [List.append_nil] at tail
    refine ⟨_, whole, _, split, dialect_regular.digits before, ⟨someWhole, ?_⟩, tail⟩
    exact first.imp_right fun same => by rwa [same]
  · have power := Layout.power_exponentText dialect_regular layout exponent
    match ds with
    | [] => exact absurd rfl some
    | [d] => exact ⟨_, [d], _, rfl, dialect_regular.digits digits, ⟨some, Or.inr lead⟩, tail_power power⟩
    | first :: second :: rest =>
      have one : ∀ d ∈ [first], d < 10 := fun d member => digits d (List.mem_of_mem_take (i := 1) member)
      have others : ∀ d ∈ second :: rest, d < 10 := fun d member => digits d (List.mem_cons_of_mem first member)
      have tail := tail_point others (by simp) power
      exact ⟨[first].map Nat.digitChar, [first], _, rfl, dialect_regular.digits one, ⟨by simp, Or.inr lead⟩, tail⟩

theorem exists_tail_magnitude (layout : Layout) {units : Nat} (fits : Fits units) :
    ∃ cs ds rest, layout.magnitude units = cs ++ rest ∧ dialect.Digits cs ds ∧ Leading ds ∧ Tail rest := by
  unfold Layout.magnitude
  split
  · have zeros : ∀ d ∈ [0], d < 10 := by simp
    have tail := tail_point zeros (by simp) .absent
    exact ⟨['0'], [0], _, rfl, dialect_regular.digits zeros, ⟨by simp, Or.inl rfl⟩, tail⟩
  · next nonzero =>
    have positive := Binary64.coefficient_shortest fits nonzero
    obtain ⟨ds, zeros, text, digits, some, -⟩ := Numeral.exists_trimmed_toDigits positive
    have lead : ds.head? ≠ Option.some 0 := by
      intro head
      have front := Text.trimEnd_append (· == '0') (Nat.toDigits 10 (Binary64.shortest units).coefficient)
      rw [text] at front
      apply Numeral.head?_toDigits positive
      rw [← front, List.head?_append_of_ne_nil _ (by simpa using some), List.head?_map, head]
      rfl
    simp only [Layout.digits, text]
    split
    · exact exists_tail_digits layout digits some lead _ (Or.inl rfl)
    · exact exists_tail_digits layout digits some lead _ (Or.inr rfl)

theorem decimal?_of_read? {dialect : Dialect} {cs : List Char} {d : Decimal}
    (found : dialect.read? cs = some (.decimal d)) :
    dialect.decimal? (Dialect.sign cs).1 (Dialect.sign cs).2 = some d := by
  unfold Dialect.read? at found
  generalize Dialect.sign cs = parts at *
  obtain ⟨neg, body⟩ := parts
  simp only at found ⊢
  split at found
  · cases found
  · split at found
    · cases found
    · obtain ⟨other, read, equal⟩ := Option.map_eq_some_iff.mp found
      cases equal
      exact read

theorem number?_finite (layout : Layout) {neg : Bool} {units : Nat} (fits : Fits units) :
    number? (layout.finite neg units) = some (.float (.finite neg units fits)) := by
  have signed : layout.finite neg units = signText neg ++ layout.magnitude units := by cases neg <;> rfl
  obtain ⟨q, ⟨d, token, rfl, rfl⟩, near⟩ :=
    Layout.spells_magnitude dialect_regular layout (sign_signText neg) fits
  obtain ⟨cs, ds, rest, text, digits, leading, tail⟩ := exists_tail_magnitude layout fits
  have rounded : Decimal.toBinary64 d = .finite d.neg units fits :=
    (Decimal.toBinary64_iff.mp (.finite fits near)).symm
  have read := decimal?_of_read? (Dialect.read?_of_number dialect_regular token)
  have unsigned : Dialect.sign (signText d.neg ++ (cs ++ rest)) = (d.neg, cs ++ rest) := by
    apply Dialect.sign_append (sign_signText d.neg)
    intro c head
    obtain ⟨first, more, split, plain⟩ := head_of_digits digits leading.1 rest
    rw [split] at head
    cases head
    exact plain
  rw [text, unsigned] at read
  rw [signed, text, number?_tail digits leading d.neg tail, read, Option.map_some, rounded]

/-! ### Words -/

/-- A text without delimiters that is read as a value. -/
structure Word (cs : List Char) (value : Value) : Prop where
  read : word? cs = some value
  some : cs ≠ []
  plain : ∀ c ∈ cs, isDelimiter c = false

theorem foreign_of_isDelimiter {c : Char} (delimiter : isDelimiter c = true) : dialect.Foreign c := by
  have all : [' ', '\t', '\n', '\r', '"', '[', ']', '\x7b', '\x7d', ',', ':'].all (dialect.Foreign ·) = true := by
    decide
  refine of_decide_eq_true (List.all_eq_true.mp all c ?_)
  rw [isDelimiter, Bool.or_eq_true, Bool.or_eq_true] at delimiter
  rcases delimiter with (space | quote) | mark
  · rw [isSpace, decide_eq_true_eq] at space
    exact List.mem_append_left ['"', '[', ']', '\x7b', '\x7d', ',', ':'] space
  · rw [beq_iff_eq.mp quote]
    decide
  · unfold Mark.ofChar? at mark
    split_ifs at mark with h1 h2 h3 h4 h5 h6
    all_goals
      first
      | subst c; decide
      | cases mark

theorem word_of_token {n : Numeral} {value : Value} (token : dialect.Number cs n)
    (read : number? cs = some value) :
    Word cs value where
  read := by
    have other {text : List Char} (unread : number? text = none) : cs ≠ text := by
      rintro rfl
      rw [unread] at read
      cases read
    rw [word?, if_neg (other rfl), if_neg (other rfl), if_neg (other rfl), read]
  some := Dialect.number_ne_nil dialect_regular token
  plain c member := by
    by_contra delimiter
    exact (foreign_of_isDelimiter (by simpa using delimiter)).not_mem token member

theorem word_intDigits (n : Int) : Word (intDigits n) (.int n) := by
  obtain ⟨d, token, -⟩ := Dialect.spells_intDigits dialect_regular n
  exact word_of_token token (number?_intDigits n)

theorem word_finite (layout : Layout) {neg : Bool} {units : Nat} (fits : Fits units) :
    Word (layout.finite neg units) (.float (.finite neg units fits)) := by
  obtain ⟨q, ⟨d, token, -⟩, -⟩ := Layout.spells_magnitude dialect_regular layout (sign_signText neg) fits
  have signed : layout.finite neg units = signText neg ++ layout.magnitude units := by cases neg <;> rfl
  rw [← signed] at token
  exact word_of_token token (number?_finite layout fits)

theorem Word.literal {text : String} {value : Value} (read : word? text.toList = Option.some value)
    (some : text.toList ≠ []) (plain : text.toList.all (isDelimiter · == false) = true) : Word text.toList value :=
  ⟨read, some, fun c member => beq_iff_eq.mp (List.all_eq_true.mp plain c member)⟩

theorem word_null : Word "null".toList .null :=
  .literal rfl (by decide) (by decide)

theorem word_true : Word "true".toList (.bool true) :=
  .literal rfl (by decide) (by decide)

theorem word_false : Word "false".toList (.bool false) :=
  .literal rfl (by decide) (by decide)

end Json

end AlertRange

import Mathlib
import AlertRange.Decimal.Numeral

namespace AlertRange

namespace Numeral

inductive Sign : List Char → Bool → Prop
  | absent : Sign [] false
  | plus : Sign ['+'] false
  | minus : Sign ['-'] true

namespace Dialect

/-- The digits of a dialect are those of ASCII, and maybe some beyond ASCII. -/
structure Regular (dialect : Dialect) : Prop where
  ascii : ∀ d < 10, dialect.digitValue? (Nat.digitChar d) = some d
  code : ∀ c d, dialect.digitValue? c = some d → (0x30 ≤ c.toNat ∧ c.toNat ≤ 0x39) ∨ 0x80 ≤ c.toNat

variable (dialect : Dialect)

def Digits (cs : List Char) (ds : List Nat) : Prop :=
  List.Forall₂ (fun c d => dialect.digitValue? c = some d) cs ds

inductive Mantissa : List Char → List Nat → Nat → Prop
  | whole {cs ds} (digits : dialect.Digits cs ds) (some : ds ≠ []) : Mantissa cs ds 0
  | point {cs ds fs es} (digits : dialect.Digits cs ds) (some : ds ≠ []) (places : dialect.Digits fs es) :
      Mantissa (cs ++ '.' :: fs) (ds ++ es) es.length
  | fraction {fs es} (places : dialect.Digits fs es) (some : es ≠ []) : Mantissa ('.' :: fs) es es.length

inductive Power : List Char → Int → Prop
  | absent : Power [] 0
  | given {letter sign neg cs ds} (mark : letter = 'e' ∨ letter = 'E') (signed : Sign sign neg)
      (digits : dialect.Digits cs ds) (some : ds ≠ []) :
      Power (letter :: (sign ++ cs)) (Binary64.signed neg (ofDigits ds))

inductive Number : List Char → Numeral → Prop
  | decimal {sign neg body ds places power exponent} (signed : Sign sign neg)
      (mantissa : dialect.Mantissa body ds places) (scaled : dialect.Power power exponent) :
      Number (sign ++ (body ++ power)) (.decimal ⟨neg, ofDigits ds, exponent - places⟩)
  | infinite {sign neg word} (signed : Sign sign neg)
      (named : Text.isWord "inf" word = true ∨ Text.isWord "infinity" word = true) :
      Number (sign ++ word) (.infinite neg)

/-! ### What the reader takes is a token -/

theorem sign_split (cs : List Char) : ∃ s, cs = s ++ (sign cs).2 ∧ Sign s (sign cs).1 := by
  unfold sign
  split
  · exact ⟨['-'], rfl, .minus⟩
  · exact ⟨['+'], rfl, .plus⟩
  · exact ⟨[], rfl, .absent⟩

theorem digitRun_split (cs : List Char) :
    ∃ run, cs = run ++ (dialect.digitRun cs).2 ∧ dialect.Digits run (dialect.digitRun cs).1 := by
  induction cs with
  | nil => exact ⟨[], rfl, .nil⟩
  | cons c rest ih =>
    obtain ⟨run, split, digits⟩ := ih
    rw [digitRun]
    cases value : dialect.digitValue? c with
    | none => exact ⟨[], rfl, .nil⟩
    | some digit => exact ⟨c :: run, congrArg (c :: ·) split, .cons value digits⟩

theorem power_of_power? {cs : List Char} {p : Int} (found : dialect.power? cs = some p) : dialect.Power cs p := by
  cases cs with
  | nil =>
    cases found
    exact .absent
  | cons c rest =>
    simp only [power?] at found
    split at found
    · next mark =>
      obtain ⟨s, split, signed⟩ := sign_split rest
      obtain ⟨run, whole, digits⟩ := dialect.digitRun_split (sign rest).2
      generalize sign rest = parts at *
      obtain ⟨neg, body⟩ := parts
      generalize dialect.digitRun body = read at *
      obtain ⟨ds, after⟩ := read
      cases ds with
      | nil => cases found
      | cons first more =>
        cases after with
        | cons _ _ => cases found
        | nil =>
          cases found
          subst split whole
          rw [List.append_nil]
          exact .given mark signed digits (by simp)
    · cases found

theorem mantissa_of_runs {cs after : List Char} {ds es : List Nat} {rest : List Char} {p : Int}
    (digits : dialect.Digits cs ds) (places : dialect.fraction after = (es, rest)) (some : ds ++ es ≠ [])
    (scaled : dialect.Power rest p) :
    ∃ body power, cs ++ after = body ++ power ∧ dialect.Mantissa body (ds ++ es) es.length ∧
      dialect.Power power p := by
  unfold fraction at places
  split at places
  · next more =>
    obtain ⟨run, split, row⟩ := dialect.digitRun_split more
    rw [places] at split row
    subst split
    by_cases empty : ds = []
    · subst empty
      cases digits
      exact ⟨'.' :: run, rest, rfl, .fraction row (by simpa using some), scaled⟩
    · exact ⟨cs ++ '.' :: run, rest, by simp, .point digits empty row, scaled⟩
  · cases places
    rw [List.append_nil] at some ⊢
    exact ⟨cs, after, rfl, .whole digits some, scaled⟩

theorem number_of_decimal? {neg : Bool} {sign cs : List Char} {d : Decimal} (signed : Sign sign neg)
    (found : dialect.decimal? neg cs = some d) : dialect.Number (sign ++ cs) (.decimal d) := by
  obtain ⟨run, split, digits⟩ := dialect.digitRun_split cs
  unfold decimal? at found
  generalize dialect.digitRun cs = read at *
  obtain ⟨whole, after⟩ := read
  rcases places : dialect.fraction after with ⟨fraction, rest⟩
  simp only [places] at found split digits
  split at found
  · cases found
  · next some =>
    obtain ⟨p, scaled, rfl⟩ := Option.map_eq_some_iff.mp found
    obtain ⟨body, power, text, mantissa, scaled⟩ :=
      dialect.mantissa_of_runs digits places some (dialect.power_of_power? scaled)
    rw [split, text]
    exact .decimal signed mantissa scaled

theorem number_of_read? {cs : List Char} {n : Numeral} (found : dialect.read? cs = some n) (number : n ≠ .nan) :
    dialect.Number cs n := by
  obtain ⟨s, split, signed⟩ := sign_split cs
  unfold read? at found
  generalize sign cs = parts at *
  obtain ⟨neg, body⟩ := parts
  simp only at found split signed
  subst split
  split at found
  · next named =>
    cases found
    exact .infinite signed (Bool.or_eq_true_iff.mp named)
  · split at found
    · cases found
      exact absurd rfl number
    · obtain ⟨d, decimal, rfl⟩ := Option.map_eq_some_iff.mp found
      exact dialect.number_of_decimal? signed decimal

/-! ### What is a token is taken by the reader -/

theorem toLower_of_code {c : Char} (plain : ¬ (0x41 ≤ c.toNat ∧ c.toNat ≤ 0x5a)) : c.toLower = c := by
  unfold Char.toLower
  split
  · next capital => exact absurd ⟨capital.1, capital.2⟩ plain
  · rfl

theorem isWord_of_head {word : String} {first c : Char} {rest : List Char}
    (spelled : word.toList.head? = some first)
    (plain : ¬ (0x41 ≤ c.toNat ∧ c.toNat ≤ 0x5a)) (other : first ≠ c) : Text.isWord word (c :: rest) = false := by
  rw [Bool.eq_false_iff, ne_eq, Text.isWord_iff]
  intro equal
  rw [← equal, List.map_cons, toLower_of_code plain, List.head?_cons, Option.some.injEq] at spelled
  exact other spelled.symm

theorem sign_append {s rest : List Char} {neg : Bool} (signed : Sign s neg)
    (plain : ∀ c, rest.head? = some c → c ≠ '-' ∧ c ≠ '+') : sign (s ++ rest) = (neg, rest) := by
  cases signed with
  | plus => rfl
  | minus => rfl
  | absent =>
    cases rest with
    | nil => rfl
    | cons c rest =>
      obtain ⟨notMinus, notPlus⟩ := plain c rfl
      rw [List.nil_append, sign]
      · intro _ equal
        exact notMinus (List.cons.inj equal).1
      · intro _ equal
        exact notPlus (List.cons.inj equal).1

variable {dialect}

theorem Regular.not_digit (regular : dialect.Regular) {c : Char} (ascii : c.toNat < 0x80)
    (outside : ¬ (0x30 ≤ c.toNat ∧ c.toNat ≤ 0x39)) : dialect.digitValue? c = none := by
  cases value : dialect.digitValue? c with
  | none => rfl
  | some d =>
    have code := regular.code c d value
    omega

theorem digitRun_append {cs rest : List Char} {ds : List Nat} (digits : dialect.Digits cs ds)
    (stop : ∀ c, rest.head? = some c → dialect.digitValue? c = none) :
    dialect.digitRun (cs ++ rest) = (ds, rest) := by
  induction digits with
  | nil =>
    cases rest with
    | nil => rfl
    | cons c rest => rw [List.nil_append, digitRun, stop c rfl]
  | cons value _ ih => rw [List.cons_append, digitRun, value, ih]

theorem digits_head (regular : dialect.Regular) {cs : List Char} {ds : List Nat}
    (digits : dialect.Digits cs ds) (some : ds ≠ []) (rest : List Char) :
    ∃ c more, cs ++ rest = c :: more ∧ ((0x30 ≤ c.toNat ∧ c.toNat ≤ 0x39) ∨ 0x80 ≤ c.toNat) := by
  cases digits with
  | nil => exact absurd rfl some
  | cons value _ => exact ⟨_, _, rfl, regular.code _ _ value⟩

theorem mantissa_head (regular : dialect.Regular) {cs : List Char} {ds : List Nat} {places : Nat}
    (mantissa : dialect.Mantissa cs ds places) (rest : List Char) :
    ∃ c more, cs ++ rest = c :: more ∧ (c = '.' ∨ (0x30 ≤ c.toNat ∧ c.toNat ≤ 0x39) ∨ 0x80 ≤ c.toNat) := by
  cases mantissa with
  | whole digits some =>
    obtain ⟨c, more, text, code⟩ := digits_head regular digits some rest
    exact ⟨c, more, text, Or.inr code⟩
  | point digits some places =>
    obtain ⟨c, more, text, code⟩ := digits_head regular digits some (_ ++ rest)
    exact ⟨c, more, by rw [List.append_assoc, text], Or.inr code⟩
  | fraction places some => exact ⟨_, _, rfl, Or.inl rfl⟩

theorem power_head (regular : dialect.Regular) {cs : List Char} {p : Int} (scaled : dialect.Power cs p) (c : Char)
    (head : cs.head? = some c) : dialect.digitValue? c = none ∧ c ≠ '.' := by
  cases scaled with
  | absent => cases head
  | given mark _ _ _ =>
    cases head
    rcases mark with rfl | rfl
    · exact ⟨regular.not_digit (by decide) (by decide), by decide⟩
    · exact ⟨regular.not_digit (by decide) (by decide), by decide⟩

theorem power?_of_power (regular : dialect.Regular) {cs : List Char} {p : Int} (scaled : dialect.Power cs p) :
    dialect.power? cs = some p := by
  cases scaled with
  | absent => rfl
  | @given letter s neg cs ds mark signed digits some =>
    have run : dialect.digitRun (cs ++ []) = (ds, []) := digitRun_append digits (by simp)
    rw [List.append_nil] at run
    have body : sign (s ++ cs) = (neg, cs) := by
      apply sign_append signed
      intro c head
      obtain ⟨first, more, text, code⟩ := digits_head regular digits some []
      rw [List.append_nil] at text
      rw [text, List.head?_cons, Option.some.injEq] at head
      subst head
      constructor <;> rintro rfl <;> revert code <;> decide
    simp only [power?, mark, if_true, body, run]
    cases ds with
    | nil => exact absurd rfl some
    | cons _ _ => rfl

theorem decimal?_of_mantissa (regular : dialect.Regular) (neg : Bool) {cs power : List Char} {ds : List Nat}
    {places : Nat} {p : Int} (mantissa : dialect.Mantissa cs ds places) (scaled : dialect.Power power p) :
    dialect.decimal? neg (cs ++ power) = some ⟨neg, ofDigits ds, p - places⟩ := by
  have stop c (head : power.head? = some c) := (power_head regular scaled c head).1
  have point : dialect.digitValue? '.' = none := regular.not_digit (by decide) (by decide)
  have pointStops (rest : List Char) c (head : ('.' :: rest).head? = Option.some c) :
    dialect.digitValue? c = none := by
    cases head
    exact point
  have read := power?_of_power regular scaled
  cases mantissa with
  | whole digits some =>
    have fraction : dialect.fraction power = ([], power) := by
      unfold fraction
      split
      · exact absurd rfl (power_head regular scaled _ rfl).2
      · rfl
    simp only [decimal?, digitRun_append digits stop, fraction, List.append_nil, if_neg some, read]
    rfl
  | @point _ _ fs _ digits some fraction =>
    have first := digitRun_append digits (pointStops (fs ++ power))
    have second := digitRun_append fraction stop
    simp only [decimal?, List.append_assoc, List.cons_append, first, Dialect.fraction, second, read,
      List.append_eq_nil_iff, some, false_and, if_false]
    rfl
  | fraction fraction some =>
    have second := digitRun_append fraction stop
    simp only [decimal?, List.cons_append, digitRun, point, Dialect.fraction, second, read, List.nil_append,
      if_neg some]
    rfl

theorem sign_mantissa (regular : dialect.Regular) {s body : List Char} {neg : Bool} {ds : List Nat} {places : Nat}
    (signed : Sign s neg) (mantissa : dialect.Mantissa body ds places) (power : List Char) :
    sign (s ++ (body ++ power)) = (neg, body ++ power) := by
  obtain ⟨c, more, text, code⟩ := mantissa_head regular mantissa power
  apply sign_append signed
  intro first head
  rw [text, List.head?_cons, Option.some.injEq] at head
  subst head
  constructor <;> rintro rfl <;> revert code <;> decide

theorem isWord_mantissa (regular : dialect.Regular) {body : List Char} {ds : List Nat} {places : Nat}
    (mantissa : dialect.Mantissa body ds places) (power : List Char) {word : String} {first : Char}
    (spelled : word.toList.head? = some first) (letter : 0x41 ≤ first.toNat ∧ first.toNat < 0x80) :
    Text.isWord word (body ++ power) = false := by
  obtain ⟨c, more, text, code⟩ := mantissa_head regular mantissa power
  rw [text]
  apply isWord_of_head spelled
  · rcases code with rfl | code
    · decide
    · omega
  · rintro rfl
    rcases code with rfl | code
    · revert letter
      decide
    · omega

theorem sign_word {s word : List Char} {neg : Bool} (signed : Sign s neg)
    (named : Text.isWord "inf" word = true ∨ Text.isWord "infinity" word = true) :
    sign (s ++ word) = (neg, word) := by
  apply sign_append signed
  intro c head
  cases word with
  | nil => cases head
  | cons first rest =>
    cases head
    have letter (code : ¬ (0x41 ≤ c.toNat ∧ c.toNat ≤ 0x5a)) : c = 'i' := by
      by_contra other
      rcases named with inf | infinity
      · rw [isWord_of_head rfl code (Ne.symm other)] at inf
        cases inf
      · rw [isWord_of_head rfl code (Ne.symm other)] at infinity
        cases infinity
    constructor <;> rintro rfl <;> exact absurd (letter (by decide)) (by decide)

theorem read?_of_number (regular : dialect.Regular) {cs : List Char} {n : Numeral} (number : dialect.Number cs n) :
    dialect.read? cs = some n := by
  cases number with
  | @decimal s neg body ds places power p signed mantissa scaled =>
    have unsigned := sign_mantissa regular signed mantissa power
    have notInf : Text.isWord "inf" (body ++ power) = false :=
      isWord_mantissa regular mantissa power rfl (by decide)
    have notInfinity : Text.isWord "infinity" (body ++ power) = false :=
      isWord_mantissa regular mantissa power rfl (by decide)
    have notNaN : Text.isWord "nan" (body ++ power) = false :=
      isWord_mantissa regular mantissa power rfl (by decide)
    have decimal := decimal?_of_mantissa regular neg mantissa scaled
    simp only [read?, unsigned, notInf, notInfinity, notNaN, decimal, Bool.or_false, Bool.and_false, if_false,
      Bool.false_eq_true, Option.map_some]
  | infinite signed named =>
    simp only [read?, sign_word signed named, Bool.or_eq_true_iff.mpr named, if_true]

theorem read?_ne_nan (bounded : dialect.takesNaN = false) (cs : List Char) : dialect.read? cs ≠ some .nan := by
  intro found
  unfold read? at found
  simp only [bounded, Bool.false_and, if_false, Bool.false_eq_true] at found
  split at found
  · cases found
  · obtain ⟨d, -, equal⟩ := Option.map_eq_some_iff.mp found
    cases equal

/-- A reader that takes no NaN takes the tokens of the grammar and nothing else. -/
theorem read?_eq_some_iff (regular : dialect.Regular) (bounded : dialect.takesNaN = false) {cs : List Char}
    {n : Numeral} : dialect.read? cs = some n ↔ dialect.Number cs n := by
  constructor
  · intro found
    apply dialect.number_of_read? found
    rintro rfl
    exact read?_ne_nan bounded cs found
  · exact read?_of_number regular

/-! ### Characters of tokens -/

theorem digitValue?_of_mem {cs : List Char} {ds : List Nat} (digits : dialect.Digits cs ds) {c : Char}
    (member : c ∈ cs) : ∃ d, dialect.digitValue? c = some d := by
  induction digits with
  | nil => cases member
  | cons value _ ih =>
    rcases List.mem_cons.mp member with rfl | later
    · exact ⟨_, value⟩
    · exact ih later

theorem mem_sign {s : List Char} {neg : Bool} (signed : Sign s neg) {c : Char} (member : c ∈ s) :
    c ∈ ['+', '-', '.', 'e', 'E'] := by
  cases signed with
  | absent => cases member
  | plus => simp_all
  | minus => simp_all

theorem mem_mantissa {cs : List Char} {ds : List Nat} {places : Nat} (mantissa : dialect.Mantissa cs ds places)
    {c : Char} (member : c ∈ cs) : (∃ d, dialect.digitValue? c = some d) ∨ c = '.' := by
  cases mantissa with
  | whole digits _ => exact Or.inl (digitValue?_of_mem digits member)
  | point digits _ fraction =>
    rcases List.mem_append.mp member with whole | after
    · exact Or.inl (digitValue?_of_mem digits whole)
    · rcases List.mem_cons.mp after with rfl | place
      · exact Or.inr rfl
      · exact Or.inl (digitValue?_of_mem fraction place)
  | fraction fraction _ =>
    rcases List.mem_cons.mp member with rfl | place
    · exact Or.inr rfl
    · exact Or.inl (digitValue?_of_mem fraction place)

theorem mem_power {cs : List Char} {p : Int} (scaled : dialect.Power cs p) {c : Char} (member : c ∈ cs) :
    (∃ d, dialect.digitValue? c = some d) ∨ c ∈ ['+', '-', '.', 'e', 'E'] := by
  cases scaled with
  | absent => cases member
  | given mark signed digits _ =>
    rcases List.mem_cons.mp member with rfl | after
    · rcases mark with rfl | rfl <;> simp
    · rcases List.mem_append.mp after with inSign | digit
      · exact Or.inr (mem_sign signed inSign)
      · exact Or.inl (digitValue?_of_mem digits digit)

theorem mem_number {cs : List Char} {n : Numeral} (number : dialect.Number cs n) {c : Char} (member : c ∈ cs) :
    (∃ d, dialect.digitValue? c = some d) ∨ c ∈ ['+', '-', '.', 'e', 'E'] ∨ c.toLower ∈ "infinity".toList := by
  cases number with
  | decimal signed mantissa scaled =>
    rcases List.mem_append.mp member with inSign | rest
    · exact Or.inr (Or.inl (mem_sign signed inSign))
    · rcases List.mem_append.mp rest with body | power
      · rcases mem_mantissa mantissa body with digit | rfl
        · exact Or.inl digit
        · exact Or.inr (Or.inl (by simp))
      · rcases mem_power scaled power with digit | mark
        · exact Or.inl digit
        · exact Or.inr (Or.inl mark)
  | infinite signed named =>
    rcases List.mem_append.mp member with inSign | letter
    · exact Or.inr (Or.inl (mem_sign signed inSign))
    · have small := List.mem_map_of_mem (f := Char.toLower) letter
      rcases named with inf | infinity
      · rw [Text.isWord_iff.mp inf] at small
        exact Or.inr (Or.inr (List.mem_of_mem_take (i := 3) small))
      · rw [Text.isWord_iff.mp infinity] at small
        exact Or.inr (Or.inr small)

/-- A character that stands in no token. -/
def Foreign (dialect : Dialect) (c : Char) : Prop :=
  dialect.digitValue? c = none ∧ c ∉ ['+', '-', '.', 'e', 'E'] ∧ c.toLower ∉ "infinity".toList

instance (dialect : Dialect) (c : Char) : Decidable (dialect.Foreign c) :=
  inferInstanceAs (Decidable (_ ∧ _ ∧ _))

theorem Foreign.not_mem {c : Char} (foreign : dialect.Foreign c) {cs : List Char} {n : Numeral}
    (number : dialect.Number cs n) : c ∉ cs := by
  intro member
  obtain ⟨noDigit, noMark, noLetter⟩ := foreign
  rcases mem_number number member with ⟨d, value⟩ | mark | letter
  · rw [noDigit] at value
    cases value
  · exact noMark mark
  · exact noLetter letter

/-- NaN is read from its word alone. -/
theorem word_of_read?_nan {cs : List Char} (found : dialect.read? cs = some .nan) :
    ∃ s neg word, cs = s ++ word ∧ Sign s neg ∧ Text.isWord "nan" word = true := by
  obtain ⟨s, split, signed⟩ := sign_split cs
  unfold read? at found
  generalize sign cs = parts at *
  obtain ⟨neg, body⟩ := parts
  simp only at found split signed
  split at found
  · cases found
  · split at found
    · next taken =>
      rw [Bool.and_eq_true] at taken
      exact ⟨s, neg, body, split, signed, taken.2⟩
    · obtain ⟨d, -, equal⟩ := Option.map_eq_some_iff.mp found
      cases equal

theorem number_ne_nan {cs : List Char} {n : Numeral} (number : dialect.Number cs n) : n ≠ .nan := by
  cases number <;> exact nofun

theorem number_ne_nil (regular : dialect.Regular) {cs : List Char} {n : Numeral} (number : dialect.Number cs n) :
    cs ≠ [] := by
  rintro rfl
  have read := read?_of_number regular number
  have inf : Text.isWord "inf" [] = false := rfl
  have infinity : Text.isWord "infinity" [] = false := rfl
  have nan : Text.isWord "nan" [] = false := rfl
  simp [read?, sign, inf, infinity, nan, decimal?, digitRun, Dialect.fraction] at read

/-! ### Tokens in two dialects -/

/-- The digits of a text in one dialect are the same digits in another. -/
def Shares (dialect other : Dialect) (cs : List Char) : Prop :=
  ∀ c ∈ cs, ∀ digit, dialect.digitValue? c = some digit → other.digitValue? c = some digit

section Shared

variable {other : Dialect} {cs : List Char}

theorem Shares.left {ds : List Char} (shares : dialect.Shares other (cs ++ ds)) : dialect.Shares other cs :=
  fun c member => shares c (List.mem_append_left ds member)

theorem Shares.right {ds : List Char} (shares : dialect.Shares other (cs ++ ds)) : dialect.Shares other ds :=
  fun c member => shares c (List.mem_append_right cs member)

theorem Shares.tail {c : Char} (shares : dialect.Shares other (c :: cs)) : dialect.Shares other cs :=
  fun d member => shares d (List.mem_cons_of_mem c member)

theorem Shares.digits {ds : List Nat} (shares : dialect.Shares other cs) (digits : dialect.Digits cs ds) :
    other.Digits cs ds := by
  induction digits with
  | nil => exact .nil
  | cons value _ ih => exact .cons (shares _ List.mem_cons_self _ value) (ih shares.tail)

theorem Shares.mantissa {ds : List Nat} {places : Nat} (shares : dialect.Shares other cs)
    (mantissa : dialect.Mantissa cs ds places) : other.Mantissa cs ds places := by
  cases mantissa with
  | whole digits some => exact .whole (shares.digits digits) some
  | point digits some fraction => exact .point (shares.left.digits digits) some (shares.right.tail.digits fraction)
  | fraction fraction some => exact .fraction (shares.tail.digits fraction) some

theorem Shares.power {p : Int} (shares : dialect.Shares other cs) (scaled : dialect.Power cs p) :
    other.Power cs p := by
  cases scaled with
  | absent => exact .absent
  | given mark signed digits some => exact .given mark signed (shares.tail.right.digits digits) some

theorem Shares.number {n : Numeral} (shares : dialect.Shares other cs) (number : dialect.Number cs n) :
    other.Number cs n := by
  cases number with
  | decimal signed mantissa scaled =>
    exact .decimal signed (shares.right.left.mantissa mantissa) (shares.right.right.power scaled)
  | infinite signed named => exact .infinite signed named

/-- In ASCII all dialects have the same digits. -/
theorem Regular.shares (regular : dialect.Regular) (regular' : other.Regular) (ascii : ∀ c ∈ cs, c.toNat < 0x80) :
    dialect.Shares other cs := by
  intro c member digit value
  have low := ascii c member
  have code := regular.code c digit value
  have chars : ∀ d < 10, (Nat.digitChar d).toNat = 0x30 + d := by decide
  have small : c.toNat - 0x30 < 10 := by omega
  have written : c = Nat.digitChar (c.toNat - 0x30) := by
    apply Char.toNat_inj.mp
    rw [chars _ small]
    omega
  have given := regular.ascii _ small
  rw [← written, value] at given
  rw [written, Option.some.inj given]
  exact regular'.ascii _ small

end Shared

theorem regular_digitValue? (takesNaN : Bool) : Regular ⟨Text.digitValue?, takesNaN⟩ where
  ascii := by
    have values : ∀ d < 10, Text.digitValue? (Nat.digitChar d) = some d := by decide
    exact values
  code := by
    intro c d value
    obtain ⟨first, found, -⟩ := Option.map_eq_some_iff.mp value
    have member := List.mem_of_find?_eq_some found
    have inside := List.find?_some found
    simp only [Bool.and_eq_true, decide_eq_true_eq] at inside
    have zeros : ∀ first ∈ Text.digitZeros, first = 0x30 ∨ 0x80 ≤ first := by decide
    have start := zeros first member
    omega

end Dialect

end Numeral

end AlertRange

import AlertRange.CommandLine.Help
import AlertRange.Field.Coercion
import AlertRange.Json.Writer
import AlertRange.Proofs.RoundTrip
import AlertRange.Proofs.ShownText

namespace AlertRange

open Text (Within isAscii isAscii_iff)

/-! ### Digits -/

namespace Text

theorem isAscii_digitChar (n : Nat) : isAscii n.digitChar = true := by
  by_cases small : n < 17
  · have digits : ∀ n < 17, isAscii n.digitChar = true := by decide
    exact digits n small
  · have other : n.digitChar = '*' := by
      unfold Nat.digitChar
      repeat rw [if_neg (by omega)]
    rw [other]
    decide

theorem isAscii_of_mem_toDigits {base : Nat} (large : 1 < base) {n : Nat} {c : Char}
    (member : c ∈ Nat.toDigits base n) : isAscii c = true := by
  induction n using Nat.strongRecOn with
  | ind n ih =>
    rw [Nat.toDigits_eq_if large] at member
    split at member
    · rw [List.mem_singleton.mp member]
      exact isAscii_digitChar n
    · next many =>
      rcases List.mem_append.mp member with front | last
      · exact ih (n / base) (Nat.div_lt_self (by omega) large) front
      · rw [List.mem_singleton.mp last]
        exact isAscii_digitChar _

theorem isAscii_of_mem_hex {width code : Nat} {c : Char} (member : c ∈ hex width code) : isAscii c = true := by
  rcases List.mem_append.mp member with zero | digit
  · rw [(List.mem_replicate.mp zero).2]
    decide
  · exact isAscii_of_mem_toDigits (by decide) digit

end Text

/-! ### Numbers -/

namespace Coercion

theorem code_of_digitValue? {c : Char} {d : Nat} (digit : fieldDialect.digitValue? c = some d) :
    0x30 ≤ c.toNat ∧ c.toNat ≤ 0x39 := by
  change Text.asciiDigitValue? c = some d at digit
  unfold Text.asciiDigitValue? at digit
  split at digit
  · next range => exact range
  · cases digit

theorem fieldDialect_regular : fieldDialect.Regular where
  ascii := by
    have values : ∀ d < 10, Text.asciiDigitValue? (Nat.digitChar d) = some d := by decide
    exact values
  code _ _ digit := Or.inl (code_of_digitValue? digit)

theorem isAscii_of_mem_number {cs : List Char} {n : Numeral} (token : fieldDialect.Number cs n) {c : Char}
    (member : c ∈ cs) : isAscii c = true := by
  rcases Numeral.Dialect.mem_number token member with ⟨d, digit⟩ | mark | letter
  · have code := code_of_digitValue? digit
    rw [isAscii_iff]
    omega
  · exact List.all_eq_true.mp (by decide : ['+', '-', '.', 'e', 'E'].all isAscii = true) c mark
  · by_cases capital : 0x41 ≤ c.toNat ∧ c.toNat ≤ 0x5a
    · rw [isAscii_iff]
      omega
    · rw [Numeral.Dialect.toLower_of_code capital] at letter
      exact List.all_eq_true.mp (by decide : "infinity".toList.all isAscii = true) c letter

end Coercion

namespace Binary64

theorem ascii_text (x : Binary64) : Within (isAscii · = true) x.text := by
  by_cases nan : x = .nan
  · rw [nan]
    exact Within.ascii "nan" (by decide)
  · obtain ⟨n, token, -⟩ := exists_number_text Coercion.fieldDialect_regular nan
    exact fun c member => Coercion.isAscii_of_mem_number token member

theorem not_mem_text {c : Char} (foreign : Coercion.fieldDialect.Foreign c) (other : c ∉ "nan".toList)
    (x : Binary64) : c ∉ x.text.toList := by
  by_cases nan : x = .nan
  · rw [nan]
    exact other
  · obtain ⟨n, token, -⟩ := exists_number_text Coercion.fieldDialect_regular nan
    exact foreign.not_mem token

theorem ascii_boundText {x : Binary64} (number : x ≠ .nan) : Within (isAscii · = true) x.boundText := by
  obtain ⟨n, y, token, -⟩ := exists_number_boundText Coercion.fieldDialect_regular number
  exact fun c member => Coercion.isAscii_of_mem_number token member

end Binary64

theorem ascii_intText (n : Int) : Within (isAscii · = true) (intText n) := by
  obtain ⟨d, token, -⟩ := Numeral.Dialect.spells_intDigits Coercion.fieldDialect_regular n
  intro c member
  rw [intText, String.toList_ofList] at member
  exact Coercion.isAscii_of_mem_number token member

theorem Layout.isAscii_of_mem_finite (layout : Layout) {neg : Bool} {units : Nat} (fits : Fits units) {c : Char}
    (member : c ∈ layout.finite neg units) : isAscii c = true := by
  have spelled {sign : List Char} (signed : Numeral.Sign sign neg) (written : c ∈ sign ++ layout.magnitude units) :
      isAscii c = true := by
    obtain ⟨q, ⟨d, token, -⟩, -⟩ := spells_magnitude Coercion.fieldDialect_regular layout signed fits
    exact Coercion.isAscii_of_mem_number token written
  cases neg with
  | false => exact spelled .absent member
  | true => exact spelled .minus member

/-! ### Quoted texts -/

namespace Text

theorem isPrintable_of_isAscii {c : Char} (ascii : isAscii c = true) : isPrintable c = true :=
  showable_isPrintable.ascii c ascii

theorem isAscii_of_mem_escapeCode {c d : Char} (member : d ∈ escapeCode c) : isAscii d = true := by
  have escaped {letter : Char} {width : Nat} (ascii : isAscii letter = true)
      (member : d ∈ '\\' :: letter :: hex width c.toNat) : isAscii d = true := by
    rcases List.mem_cons.mp member with rfl | rest
    · decide
    · rcases List.mem_cons.mp rest with rfl | digit
      · exact ascii
      · exact isAscii_of_mem_hex digit
  unfold escapeCode at member
  split at member
  · exact escaped (by decide) member
  · split at member
    · exact escaped (by decide) member
    · exact escaped (by decide) member

theorem isPrintable_of_mem_quotedChar {quote : Char} (ascii : isAscii quote = true) {c d : Char}
    (member : d ∈ quotedChar quote c) : isPrintable d = true := by
  unfold quotedChar at member
  have literal {cs : List Char} (printable : cs.all isPrintable = true) (member : d ∈ cs) : isPrintable d = true :=
    List.all_eq_true.mp printable d member
  split at member
  · next marked =>
    rcases marked with rfl | rfl
    · have both : ['\\', c].all isPrintable = true := by
        rw [List.all_cons, List.all_cons, isPrintable_of_isAscii ascii]
        rfl
      exact literal both member
    · exact literal (by decide) member
  · split at member
    · exact literal (by decide) member
    · split at member
      · exact literal (by decide) member
      · split at member
        · exact literal (by decide) member
        · split at member
          · next printable => rwa [List.mem_singleton.mp member]
          · exact isPrintable_of_isAscii (isAscii_of_mem_escapeCode member)

theorem printable_quoted (text : String) : Within (isPrintable · = true) (quoted text) := by
  have ascii : isAscii (quoteFor text.toList) = true := by
    unfold quoteFor
    split <;> decide
  have mark := isPrintable_of_isAscii ascii
  intro c member
  rw [quoted, String.toList_ofList, quotedChars, List.mem_cons, List.mem_append, List.mem_singleton] at member
  rcases member with rfl | inside | rfl
  · exact mark
  · obtain ⟨d, -, written⟩ := List.mem_flatMap.mp inside
    exact isPrintable_of_mem_quotedChar ascii written
  · exact mark

/-! ### Control sequences -/

theorem unstyled_of_not_mem {cs : List Char} (plain : '\x1b' ∉ cs) : unstyled cs = cs := by
  induction cs with
  | nil =>
    rw [unstyled]
    rfl
  | cons c rest ih =>
    have none : afterStyle? (c :: rest) = none := by
      unfold afterStyle?
      split
      · next equal =>
        cases equal
        simp at plain
      · rfl
    rw [unstyled]
    split
    · next found =>
      rw [none] at found
      cases found
    · exact congrArg (c :: ·) (ih fun member => plain (List.mem_cons_of_mem c member))

end Text

theorem CommandLine.written_of_not_mem {text : String} (plain : '\x1b' ∉ text.toList) :
    written text = text ++ "\n" := by
  rw [written, Text.unstyled_of_not_mem plain, String.ofList_toList]

/-! ### JSON -/

namespace Json.Form

structure Writes (form : Form) (keep : Char → Prop) : Prop where
  ascii : ∀ c, isAscii c = true → keep c
  escape : ∀ c, ∀ d ∈ form.escape c, keep d
  float : ∀ x, Within keep (form.float x)
  comma : Within keep form.comma
  colon : Within keep form.colon
  margin : ∀ depth, Within keep (form.margin depth)

variable {form : Form} {keep : Char → Prop} (writes : form.Writes keep)

include writes

theorem Writes.literal (text : String) (ascii : text.toList.all isAscii = true) : Within keep text :=
  (Within.ascii text ascii).mono writes.ascii

theorem Writes.string (text : String) : Within keep (form.string text) := by
  intro c member
  have mark : keep '"' := writes.ascii '"' (by decide)
  rw [Form.string, String.toList_ofList, List.mem_cons, List.mem_append, List.mem_singleton] at member
  rcases member with rfl | inside | rfl
  · exact mark
  · obtain ⟨d, -, escaped⟩ := List.mem_flatMap.mp inside
    exact writes.escape d c escaped
  · exact mark

mutual

theorem Writes.write (depth : Nat) : ∀ value : Value, Within keep (form.write depth value)
  | .null => writes.literal "null" (by decide)
  | .bool true => writes.literal "true" (by decide)
  | .bool false => writes.literal "false" (by decide)
  | .int value => (ascii_intText value).mono writes.ascii
  | .float value => writes.float value
  | .text value => writes.string value
  | .list [] => writes.literal "[]" (by decide)
  | .list (item :: rest) => by
    have opened := (writes.literal "[" (by decide)).append (writes.margin (depth + 1))
    have all := (opened.append (Writes.write (depth + 1) item)).append (Writes.writeItems (depth + 1) rest)
    rw [Form.write]
    exact (all.append (writes.margin depth)).append (writes.literal "]" (by decide))
  | .record [] => writes.literal "\x7b\x7d" (by decide)
  | .record ((name, value) :: rest) => by
    have opened := (writes.literal "\x7b" (by decide)).append (writes.margin (depth + 1))
    have named := (opened.append (writes.string name)).append writes.colon
    have all := (named.append (Writes.write (depth + 1) value)).append (Writes.writeFields (depth + 1) rest)
    rw [Form.write]
    exact (all.append (writes.margin depth)).append (writes.literal "\x7d" (by decide))

theorem Writes.writeItems (depth : Nat) : ∀ items : List Value, Within keep (form.writeItems depth items)
  | [] => writes.literal "" (by decide)
  | item :: rest => by
    have opened := writes.comma.append (writes.margin depth)
    rw [Form.writeItems]
    exact (opened.append (Writes.write depth item)).append (Writes.writeItems depth rest)

theorem Writes.writeFields (depth : Nat) :
    ∀ fields : List (String × Value), Within keep (form.writeFields depth fields)
  | [] => writes.literal "" (by decide)
  | (name, value) :: rest => by
    have opened := writes.comma.append (writes.margin depth)
    have named := (opened.append (writes.string name)).append writes.colon
    rw [Form.writeFields]
    exact (named.append (Writes.write depth value)).append (Writes.writeFields depth rest)

end

end Json.Form

namespace Json

theorem isAscii_of_shortEscape? {c d : Char} {cs : List Char} (short : shortEscape? c = some cs)
    (member : d ∈ cs) :
    isAscii d = true := by
  have literal {cs : List Char} (ascii : cs.all isAscii = true) (member : d ∈ cs) : isAscii d = true :=
    List.all_eq_true.mp ascii d member
  unfold shortEscape? at short
  repeat' split at short
  all_goals
    cases short
    try exact literal (by decide) member

theorem isAscii_of_mem_unitEscape {code : Nat} {d : Char} (member : d ∈ unitEscape code) : isAscii d = true := by
  rcases List.mem_cons.mp member with rfl | rest
  · decide
  · rcases List.mem_cons.mp rest with rfl | digit
    · decide
    · exact Text.isAscii_of_mem_hex digit

theorem isAscii_of_mem_asciiEscape {c d : Char} (member : d ∈ asciiEscape c) : isAscii d = true := by
  unfold asciiEscape at member
  cases short : shortEscape? c with
  | some cs =>
    rw [short] at member
    exact isAscii_of_shortEscape? short member
  | none =>
    rw [short, Option.getD_none] at member
    split at member
    · next ascii =>
      rw [List.mem_singleton.mp member]
      exact isAscii_iff.mpr ascii
    · unfold codeEscape at member
      split at member
      · exact isAscii_of_mem_unitEscape member
      · exact (List.mem_append.mp member).elim isAscii_of_mem_unitEscape isAscii_of_mem_unitEscape

theorem not_escape_of_isAscii {c : Char} (ascii : isAscii c = true) : c ≠ '\x1b' := by
  rintro rfl
  cases ascii

theorem not_escape_of_mem_leastEscape {c d : Char} (member : d ∈ leastEscape c) : d ≠ '\x1b' := by
  unfold leastEscape at member
  cases short : shortEscape? c with
  | some cs =>
    rw [short] at member
    exact not_escape_of_isAscii (isAscii_of_shortEscape? short member)
  | none =>
    rw [short, Option.getD_none] at member
    split at member
    · exact not_escape_of_isAscii (isAscii_of_mem_unitEscape member)
    · next high =>
      rw [List.mem_singleton.mp member]
      rintro rfl
      exact high (by decide)

theorem writes_compact : compact.Writes (isAscii · = true) where
  ascii _ ascii := ascii
  escape _ _ member := isAscii_of_mem_asciiEscape member
  float x := by
    cases x with
    | nan => exact Within.ascii "NaN" (by decide)
    | infinite neg =>
      cases neg with
      | false => exact Within.ascii "Infinity" (by decide)
      | true => exact Within.ascii "-Infinity" (by decide)
    | finite neg units fits => exact Binary64.ascii_text (.finite neg units fits)
  comma := Within.ascii "," (by decide)
  colon := Within.ascii ":" (by decide)
  margin _ := Within.ascii "" (by decide)

theorem writes_indented : indented.Writes (· ≠ '\x1b') where
  ascii _ := not_escape_of_isAscii
  escape _ _ member := not_escape_of_mem_leastEscape member
  float x := by
    have absent : Within (· ≠ '\x1b') "null" :=
      (Within.ascii "null" (by decide)).mono fun _ => not_escape_of_isAscii
    cases x with
    | nan => exact absent
    | infinite neg => exact absent
    | finite neg units fits =>
      intro c member
      change c ∈ (String.ofList (reportLayout.finite neg units)).toList at member
      rw [String.toList_ofList] at member
      exact not_escape_of_isAscii (reportLayout.isAscii_of_mem_finite fits member)
  comma := (Within.ascii "," (by decide)).mono fun _ => not_escape_of_isAscii
  colon := (Within.ascii ": " (by decide)).mono fun _ => not_escape_of_isAscii
  margin depth c member := by
    change c ∈ (String.ofList ('\n' :: List.replicate (2 * depth) ' ')).toList at member
    rw [String.toList_ofList] at member
    rcases List.mem_cons.mp member with rfl | blank
    · decide
    · rw [(List.mem_replicate.mp blank).2]
      decide

end Json

end AlertRange

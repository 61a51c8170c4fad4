import AlertRange.Proofs.DecodedReport

namespace AlertRange

open Value (Every Tidy)

open Text (Within isAscii)

namespace Json

theorem code_lt (c : Char) : c.toNat < 0x110000 :=
  c.valid.elim (fun low => Nat.lt_trans low (by decide)) And.right

/-- The two surrogates of a character outside the basic plane stand for that character. -/
theorem decode?_surrogates {c : Char} (outside : 0x10000 ≤ c.toNat) (rest : List Nat) :
    decode? ((0xd800 + (c.toNat - 0x10000) / 0x400) :: (0xdc00 + (c.toNat - 0x10000) % 0x400) :: rest) =
      (decode? rest).map (c :: ·) := by
  have bound := code_lt c
  have high : isHighSurrogate (0xd800 + (c.toNat - 0x10000) / 0x400) = true := by
    rw [isHighSurrogate, decide_eq_true_eq]
    omega
  have notLow : isLowSurrogate (0xd800 + (c.toNat - 0x10000) / 0x400) = false := by
    rw [isLowSurrogate, decide_eq_false_iff_not]
    omega
  have low : isLowSurrogate (0xdc00 + (c.toNat - 0x10000) % 0x400) = true := by
    rw [isLowSurrogate, decide_eq_true_eq]
    omega
  have code : 0x10000 + (0xd800 + (c.toNat - 0x10000) / 0x400 - 0xd800) * 0x400 +
      (0xdc00 + (c.toNat - 0x10000) % 0x400 - 0xdc00) = c.toNat := by
    omega
  rw [decode?.eq_def]
  simp only [notLow, high, low, Bool.false_eq_true, if_false, if_true, code, Char.ofNat_toNat]

theorem exists_codes_codeEscape (c : Char) :
    ∃ codes, Escapes (codeEscape c.toNat) codes ∧
      ∀ rest, decode? (codes ++ rest) = (decode? rest).map (c :: ·) := by
  have bound := code_lt c
  unfold codeEscape
  split
  · next inside => exact ⟨[c.toNat], escapes_unitEscape inside, decode?_toNat c⟩
  · next outside =>
    have high : Escapes _ [0xd800 + (c.toNat - 0x10000) / 0x400] := escapes_unitEscape (by omega)
    have low : Escapes _ [0xdc00 + (c.toNat - 0x10000) % 0x400] := escapes_unitEscape (by omega)
    exact ⟨_, high.append low, decode?_surrogates (Nat.le_of_not_lt outside)⟩

theorem exists_codes_asciiEscape (c : Char) :
    ∃ codes, Escapes (asciiEscape c) codes ∧ ∀ rest, decode? (codes ++ rest) = (decode? rest).map (c :: ·) := by
  unfold asciiEscape
  cases short : shortEscape? c with
  | some cs => exact ⟨[c.toNat], escapes_shortEscape? short, decode?_toNat c⟩
  | none =>
    obtain ⟨quote, slash⟩ := plain_of_shortEscape? short
    rw [Option.getD_none]
    split
    · next ascii => exact ⟨[c.toNat], escapes_self quote slash (by omega), decode?_toNat c⟩
    · exact exists_codes_codeEscape c

theorem readable_compact : compact.Readable where
  escape := exists_codes_asciiEscape
  comma := ⟨[], rfl, List.forall_mem_nil _⟩
  colon := ⟨[], rfl, List.forall_mem_nil _⟩
  margin _ := List.forall_mem_nil _

theorem readable_spaced : spaced.Readable where
  escape := exists_codes_asciiEscape
  comma := ⟨[' '], rfl, by simp [Blank, isSpace]⟩
  colon := ⟨[' '], rfl, by simp [Blank, isSpace]⟩
  margin _ := List.forall_mem_nil _

theorem writes_spaced : spaced.Writes (isAscii · = true) :=
  { writes_compact with
    comma := .ascii ", " (by decide)
    colon := .ascii ": " (by decide) }

theorem word_wordyFloat {x : Binary64} (finite : x.isNaN = false ∧ x.isInfinite = false) :
    Word (wordyFloat x).toList (.float x) := by
  cases x with
  | nan => cases finite.1
  | infinite neg => cases finite.2
  | finite neg units fits =>
    rw [wordyFloat, Binary64.text, String.toList_ofList]
    · exact word_finite .everyday fits
    · rintro ⟨⟩
    · rintro _ ⟨⟩

/-- In a form that writes doubles as words a tidy value reads back as it is. -/
theorem read?_of_tidy {form : Form} (readable : form.Readable) (wordy : form.float = wordyFloat) {value : Value}
    (tidy : Every Tidy value) : read? (text form value) = some value := by
  have words : ∀ x, Value.Inside (.float x) value → Word (form.float x).toList (.float x) := by
    intro x inside
    rw [wordy]
    exact word_wordyFloat (Value.finite_of_tidy tidy inside)
  rw [read?_text readable (Value.namesOnce_of_tidy tidy) words, Value.replaceFloats_eq_self value fun _ _ => rfl]

theorem read?_compact_of_tidy {value : Value} (tidy : Every Tidy value) :
    read? (text compact value) = some value :=
  read?_of_tidy readable_compact rfl tidy

theorem read?_spaced_of_tidy {value : Value} (tidy : Every Tidy value) : read? (text spaced value) = some value :=
  read?_of_tidy readable_spaced rfl tidy

end Json

def Unspaced (text : String) : Prop :=
  Within (fun c => isAscii c = true ∧ c ≠ ' ') text

theorem unspaced_literal (text : String) (letters : text.toList.all (fun c => isAscii c && c != ' ') = true) :
    Unspaced text := by
  intro c member
  simpa using List.all_eq_true.mp letters c member

theorem unspaced_of_ascii {text : String} (ascii : Within (isAscii · = true) text) (joined : ' ' ∉ text.toList) :
    Unspaced text :=
  fun c member => ⟨ascii c member, fun same => joined (same ▸ member)⟩

theorem Unspaced.append {a b : String} (first : Unspaced a) (second : Unspaced b) : Unspaced (a ++ b) :=
  Within.append first second

namespace Binary64

theorem unspaced_text (x : Binary64) : Unspaced x.text :=
  unspaced_of_ascii x.ascii_text (x.not_mem_text (by decide) (by decide))

theorem unspaced_boundText {x : Binary64} (number : x ≠ .nan) : Unspaced x.boundText := by
  obtain ⟨n, y, token, -⟩ := exists_number_boundText Coercion.fieldDialect_regular number
  have foreign : Coercion.fieldDialect.Foreign ' ' := by decide
  exact unspaced_of_ascii (ascii_boundText number) (foreign.not_mem token)

end Binary64

theorem Range.unspaced_spec (range : Range) : Unspaced range.spec := by
  have marked : Unspaced (if range.invert then "@" else "") := by
    split <;> exact unspaced_literal _ (by decide)
  have lower : Unspaced (if range.lower.same .zero then "" else range.lowerText ++ ":") := by
    have bound : Unspaced range.lowerText := by
      unfold lowerText
      split
      · exact unspaced_literal _ (by decide)
      · exact Binary64.unspaced_boundText range.lower_ne_nan
    split
    · exact unspaced_literal _ (by decide)
    · exact bound.append (unspaced_literal _ (by decide))
  have upper : Unspaced range.upperText := by
    unfold upperText
    split
    · exact unspaced_literal _ (by decide)
    · exact Binary64.unspaced_boundText range.upper_ne_nan
  exact (marked.append lower).append upper

namespace Json

theorem unspaced_asciiEscape {c : Char} (ascii : isAscii c = true) (letter : c ≠ ' ') : ' ' ∉ asciiEscape c := by
  have codes : ∀ n < 0x7f, ' ' ∈ asciiEscape (Char.ofNat n) → Char.ofNat n = ' ' := by decide
  intro member
  have code := Text.isAscii_iff.mp ascii
  have same := codes c.toNat (by omega)
  rw [Char.ofNat_toNat] at same
  exact letter (same member)

theorem unspaced_string {text : String} (unspaced : Unspaced text) : Unspaced (compact.string text) := by
  refine unspaced_of_ascii (writes_compact.string text) ?_
  rw [Form.string, String.toList_ofList]
  intro member
  rcases List.mem_cons.mp member with quote | rest
  · cases quote
  · rcases List.mem_append.mp rest with inside | quote
    · obtain ⟨c, letter, escaped⟩ := List.mem_flatMap.mp inside
      exact unspaced_asciiEscape (unspaced c letter).1 (unspaced c letter).2 escaped
    · cases List.mem_singleton.mp quote

theorem unspaced_bound (depth : Nat) (x : Binary64) : Unspaced (compact.write depth x.asData) := by
  cases x with
  | nan => exact unspaced_literal "NaN" (by decide)
  | infinite neg => cases neg <;> exact unspaced_string (unspaced_literal _ (by decide))
  | finite neg units fits => exact Binary64.unspaced_text _

section Records

variable {fields : Value.Fields}
  (each : ∀ field ∈ fields, Unspaced field.1 ∧ ∀ depth, Unspaced (compact.write depth field.2))

include each

theorem unspaced_writeFields (depth : Nat) : Unspaced (compact.writeFields depth fields) := by
  induction fields with
  | nil => exact unspaced_literal "" (by decide)
  | cons field rest ih =>
    obtain ⟨name, value⟩ := each field List.mem_cons_self
    have opened := (unspaced_literal "," (by decide)).append (unspaced_literal "" (by decide))
    have named := (opened.append (unspaced_string name)).append (unspaced_literal ":" (by decide))
    rw [Form.writeFields]
    exact (named.append (value depth)).append (ih fun other member =>
      each other (List.mem_cons_of_mem field member))

theorem unspaced_record (depth : Nat) : Unspaced (compact.write depth (.record fields)) := by
  cases fields with
  | nil => exact unspaced_literal "\x7b\x7d" (by decide)
  | cons field rest =>
    obtain ⟨name, value⟩ := each field List.mem_cons_self
    have others := unspaced_writeFields (fun other member =>
      each other (List.mem_cons_of_mem field member)) (depth + 1)
    have margin : Unspaced "" := unspaced_literal "" (by decide)
    have opened := (unspaced_literal "\x7b" (by decide)).append margin
    have named := (opened.append (unspaced_string name)).append (unspaced_literal ":" (by decide))
    have all := ((named.append (value (depth + 1))).append others).append margin
    rw [Form.write]
    exact all.append (unspaced_literal "\x7d" (by decide))

end Records

theorem unspaced_toFields (range : Range) : Unspaced (text compact (.record range.toFields)) := by
  refine unspaced_record ?_ 0
  simp only [Range.toFields, List.forall_mem_cons]
  refine ⟨⟨unspaced_literal "start" (by decide), fun depth => unspaced_bound depth range.lower⟩,
    ⟨unspaced_literal "end" (by decide), fun depth => unspaced_bound depth range.upper⟩,
    ⟨unspaced_literal "invert" (by decide), fun depth => ?_⟩,
    ⟨unspaced_literal "spec" (by decide), fun depth => unspaced_string range.unspaced_spec⟩, List.forall_mem_nil _⟩
  cases range.invert with
  | false => exact unspaced_literal "false" (by decide)
  | true => exact unspaced_literal "true" (by decide)

end Json

end AlertRange

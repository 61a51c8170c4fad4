import AlertRange.Proofs.JsonWords

namespace AlertRange

/-! ### Values inside values -/

namespace Value

inductive Inside : Value → Value → Prop
  | self (value : Value) : Inside value value
  | item {value item : Value} {items : List Value} (member : item ∈ items) (inside : Inside value item) :
      Inside value (.list items)
  | field {value : Value} {field : String × Value} {fields : Fields} (member : field ∈ fields)
      (inside : Inside value field.2) : Inside value (.record fields)

def NamesOnce (value : Value) : Prop :=
  ∀ fields, Inside (.record fields) value → (fields.map Prod.fst).Nodup

mutual

def replaceFloats (given : Binary64 → Value) : Value → Value
  | .float value => given value
  | .list items => .list (replaceItems given items)
  | .record fields => .record (replaceFields given fields)
  | value => value

def replaceItems (given : Binary64 → Value) : List Value → List Value
  | [] => []
  | item :: rest => item.replaceFloats given :: replaceItems given rest

def replaceFields (given : Binary64 → Value) : List (String × Value) → List (String × Value)
  | [] => []
  | (name, value) :: rest => (name, value.replaceFloats given) :: replaceFields given rest

end

variable {given : Binary64 → Value}

theorem names_replaceFields (fields : Fields) :
    (replaceFields given fields).map Prod.fst = fields.map Prod.fst := by
  induction fields with
  | nil => rfl
  | cons field rest ih => exact congrArg (field.1 :: ·) ih

mutual

theorem replaceFloats_eq_self :
    ∀ value : Value, (∀ x, Inside (.float x) value → given x = .float x) → value.replaceFloats given = value
  | .float x, kept => kept x (.self _)
  | .list items, kept =>
    congrArg Value.list (replaceItems_eq_self items fun _ member _ inside => kept _ (.item member inside))
  | .record fields, kept =>
    congrArg Value.record (replaceFields_eq_self fields fun _ member _ inside => kept _ (.field member inside))
  | .null, _ => rfl
  | .bool _, _ => rfl
  | .int _, _ => rfl
  | .text _, _ => rfl

theorem replaceItems_eq_self :
    ∀ items : List Value, (∀ item ∈ items, ∀ x, Inside (.float x) item → given x = .float x) →
      replaceItems given items = items
  | [], _ => rfl
  | item :: rest, kept => by
    have first := replaceFloats_eq_self item (kept item List.mem_cons_self)
    have later := replaceItems_eq_self rest fun other member => kept other (List.mem_cons_of_mem item member)
    rw [replaceItems, first, later]

theorem replaceFields_eq_self :
    ∀ fields : Fields, (∀ field ∈ fields, ∀ x, Inside (.float x) field.2 → given x = .float x) →
      replaceFields given fields = fields
  | [], _ => rfl
  | (name, value) :: rest, kept => by
    have first := replaceFloats_eq_self value (kept (name, value) List.mem_cons_self)
    have later := replaceFields_eq_self rest fun other member => kept other (List.mem_cons_of_mem _ member)
    rw [replaceFields, first, later]

end

namespace Fields

theorem set_of_not_mem {name : String} {fields : Fields} (absent : name ∉ fields.map Prod.fst) (value : Value) :
    fields.set name value = fields ++ [(name, value)] := by
  induction fields with
  | nil => rfl
  | cons field rest ih =>
    obtain ⟨key, old⟩ := field
    rw [List.map_cons, List.mem_cons, not_or] at absent
    rw [set, if_neg (Ne.symm absent.1), ih absent.2]
    rfl

theorem ofList_of_nodup {fields : Fields} (once : (fields.map Prod.fst).Nodup) : ofList fields = fields := by
  induction fields using List.reverseRecOn with
  | nil => rfl
  | append_singleton fields field ih =>
    rw [List.map_append, List.map_singleton, List.nodup_append] at once
    obtain ⟨front, -, apart⟩ := once
    have absent : field.1 ∉ fields.map Prod.fst := fun member => apart _ member _ List.mem_cons_self rfl
    have rest := ih front
    rw [ofList] at rest ⊢
    rw [List.foldl_append, rest]
    exact set_of_not_mem absent field.2

end Fields

end Value

namespace Json

/-! ### Strings -/

theorem decode?_toNat (c : Char) (rest : List Nat) : decode? (c.toNat :: rest) = (decode? rest).map (c :: ·) := by
  have valid : c.toNat < 0xd800 ∨ 0xdfff < c.toNat := c.valid.imp id And.left
  have notLow : isLowSurrogate c.toNat = false := by
    rw [isLowSurrogate, decide_eq_false_iff_not]
    omega
  have notHigh : isHighSurrogate c.toNat = false := by
    rw [isHighSurrogate, decide_eq_false_iff_not]
    omega
  rw [decode?.eq_def]
  simp only [notLow, notHigh, Bool.false_eq_true, if_false, Char.ofNat_toNat]

def Escapes (cs : List Char) (codes : List Nat) : Prop :=
  ∀ progress before, cs.foldlM Reader.read ⟨progress, .string before⟩ =
    some ⟨progress, .string (codes.reverse ++ before)⟩

theorem Escapes.append {cs ds : List Char} {codes more : List Nat} (first : Escapes cs codes)
    (second : Escapes ds more) :
    Escapes (cs ++ ds) (codes ++ more) := by
  intro progress before
  rw [List.foldlM_append, first, List.reverse_append, List.append_assoc]
  exact second progress _

theorem escapes_self {c : Char} (quote : c ≠ '"') (slash : c ≠ '\\') (printable : ¬ c.toNat < 0x20) :
    Escapes [c] [c.toNat] := by
  intro progress before
  simp only [List.foldlM_cons, List.foldlM_nil, Reader.read, if_neg quote, if_neg slash, if_neg printable]
  rfl

theorem escapes_letter {letter : Char} {code : Nat} (read : escaped? letter = some code) (short : letter ≠ 'u') :
    Escapes ['\\', letter] [code] := by
  intro progress before
  have closed : Reader.read ⟨progress, .escape before⟩ letter = some ⟨progress, .string (code :: before)⟩ := by
    simp only [Reader.read, if_neg short, read, Option.map_some]
  change (Reader.read ⟨progress, .escape before⟩ letter >>= fun reader => [].foldlM Reader.read reader) = _
  rw [closed]
  rfl

theorem hexDigit?_digitChar {d : Nat} (small : d < 16) : hexDigit? d.digitChar = some d := by
  have digits : ∀ d < 16, hexDigit? d.digitChar = some d := by decide
  exact digits d small

theorem hex_four {code : Nat} (small : code < 0x10000) :
    Text.hex 4 code = [code / 0x1000, code / 0x100 % 16, code / 0x10 % 16, code % 16].map Nat.digitChar := by
  have step (n : Nat) := Nat.toDigits_eq_if (b := 16) (n := n) (by decide)
  rw [Text.hex, step code]
  by_cases one : code < 16
  · have digits : code / 0x1000 = 0 ∧ code / 0x100 % 16 = 0 ∧ code / 0x10 % 16 = 0 ∧ code % 16 = code := by omega
    rw [if_pos one, digits.1, digits.2.1, digits.2.2.1, digits.2.2.2]
    rfl
  rw [if_neg one, step (code / 0x10)]
  by_cases two : code / 0x10 < 16
  · have digits : code / 0x1000 = 0 ∧ code / 0x100 % 16 = 0 ∧ code / 0x10 % 16 = code / 0x10 := by omega
    rw [if_pos two, digits.1, digits.2.1, digits.2.2]
    rfl
  rw [if_neg two, Nat.div_div_eq_div_mul, step (code / 0x100)]
  by_cases three : code / 0x100 < 16
  · have digits : code / 0x1000 = 0 ∧ code / 0x100 % 16 = code / 0x100 := by omega
    rw [if_pos three, digits.1, digits.2]
    rfl
  rw [if_neg three, Nat.div_div_eq_div_mul, step (code / 0x1000), if_pos (by omega)]
  rfl

theorem escapes_unitEscape {code : Nat} (small : code < 0x10000) : Escapes (unitEscape code) [code] := by
  intro progress before
  have value : ofHexDigits [code % 16, code / 0x10 % 16, code / 0x100 % 16, code / 0x1000] = code := by
    simp only [ofHexDigits, List.foldr_cons, List.foldr_nil]
    omega
  have first := hexDigit?_digitChar (d := code / 0x1000) (by omega)
  have second := hexDigit?_digitChar (d := code / 0x100 % 16) (by omega)
  have third := hexDigit?_digitChar (d := code / 0x10 % 16) (by omega)
  have fourth := hexDigit?_digitChar (d := code % 16) (by omega)
  rw [unitEscape, hex_four small]
  simp [Reader.read, first, second, third, fourth, value]

theorem escapes_shortEscape? {c : Char} {cs : List Char} (short : shortEscape? c = some cs) :
    Escapes cs [c.toNat] := by
  unfold shortEscape? at short
  split_ifs at short with quote slash newline carriage tab backspace feed
  · cases short
    rw [quote]
    exact escapes_letter rfl (by decide)
  · cases short
    rw [slash]
    exact escapes_letter rfl (by decide)
  · cases short
    rw [newline]
    exact escapes_letter rfl (by decide)
  · cases short
    rw [carriage]
    exact escapes_letter rfl (by decide)
  · cases short
    rw [tab]
    exact escapes_letter rfl (by decide)
  · cases short
    rw [backspace]
    exact escapes_letter rfl (by decide)
  · cases short
    rw [feed]
    exact escapes_letter rfl (by decide)

theorem plain_of_shortEscape? {c : Char} (long : shortEscape? c = none) : c ≠ '"' ∧ c ≠ '\\' := by
  constructor <;> rintro rfl <;> cases long

theorem escapes_leastEscape (c : Char) : Escapes (leastEscape c) [c.toNat] := by
  unfold leastEscape
  cases short : shortEscape? c with
  | some cs => exact escapes_shortEscape? short
  | none =>
    obtain ⟨quote, slash⟩ := plain_of_shortEscape? short
    rw [Option.getD_none]
    split
    · next control => exact escapes_unitEscape (by omega)
    · next printable => exact escapes_self quote slash printable

/-! ### Forms -/

def Blank (text : List Char) : Prop :=
  ∀ c ∈ text, isSpace c = true

/-- A form whose characters are escaped to codes for them, with nothing but white space around its marks. -/
structure Form.Readable (form : Form) : Prop where
  escape : ∀ c, ∃ codes, Escapes (form.escape c) codes ∧
    ∀ rest, decode? (codes ++ rest) = (decode? rest).map (c :: ·)
  comma : ∃ blanks, form.comma.toList = ',' :: blanks ∧ Blank blanks
  colon : ∃ blanks, form.colon.toList = ':' :: blanks ∧ Blank blanks
  margin : ∀ depth, Blank (form.margin depth).toList

theorem readable_indented : indented.Readable where
  escape c := ⟨[c.toNat], escapes_leastEscape c, decode?_toNat c⟩
  comma := ⟨[], rfl, List.forall_mem_nil _⟩
  colon := ⟨[' '], rfl, by simp [Blank, isSpace]⟩
  margin depth := by
    intro c member
    change c ∈ (String.ofList ('\n' :: List.replicate (2 * depth) ' ')).toList at member
    rw [String.toList_ofList] at member
    rcases List.mem_cons.mp member with rfl | blank
    · rfl
    · rw [(List.mem_replicate.mp blank).2]
      rfl

/-! ### Steps of a reader -/

namespace Reader

/-- The reader has come so far, once a word that it may be in is ended. -/
inductive At : Reader → Progress → Prop
  | between (progress : Progress) : At ⟨progress, .between⟩ progress
  | word {progress next : Progress} {before : List Char} (ended : endWord progress before = some next) :
      At ⟨progress, .word before⟩ next

theorem read_of_at {reader : Reader} {progress : Progress} (stands : reader.At progress) {c : Char}
    (delimiter : isDelimiter c = true) : reader.read c = readBetween progress c := by
  cases stands with
  | between => rfl
  | word ended =>
    simp only [read, delimiter, if_true, ended]
    rfl

theorem finish_of_at {reader : Reader} {progress : Progress} (stands : reader.At progress) :
    reader.finish = progress.value? := by
  cases stands with
  | between => rfl
  | word ended =>
    simp only [finish, ended]
    rfl

/-- From between words a text brings the reader from one progress to the next. -/
def Reads (cs : List Char) (progress next : Progress) : Prop :=
  ∃ reader, cs.foldlM read ⟨progress, .between⟩ = some reader ∧ reader.At next

/-- The same, also from within a word, which the text ends. -/
def Continues (cs : List Char) (progress next : Progress) : Prop :=
  ∀ reader, reader.At progress → ∃ reader', cs.foldlM read reader = some reader' ∧ reader'.At next

variable {cs ds : List Char} {progress next last : Progress}

theorem Continues.reads (continues : Continues cs progress next) : Reads cs progress next :=
  continues _ (.between progress)

theorem Reads.append (reads : Reads cs progress next) (continues : Continues ds next last) :
    Reads (cs ++ ds) progress last := by
  obtain ⟨reader, read, stands⟩ := reads
  obtain ⟨reader', read', stands'⟩ := continues reader stands
  exact ⟨reader', by rw [List.foldlM_append, read, Option.bind_eq_bind, Option.bind_some, read'], stands'⟩

theorem isDelimiter_of_isSpace {c : Char} (space : isSpace c = true) : isDelimiter c = true := by
  rw [isDelimiter, space, Bool.true_or, Bool.true_or]

theorem reads_blank {blanks : List Char} (blank : Blank blanks) (reads : Reads ds progress next) :
    Reads (blanks ++ ds) progress next := by
  induction blanks with
  | nil => exact reads
  | cons c rest ih =>
    obtain ⟨reader, read', stands⟩ := ih fun d member => blank d (List.mem_cons_of_mem c member)
    have space := blank c List.mem_cons_self
    refine ⟨reader, ?_, stands⟩
    rw [List.cons_append, List.foldlM_cons, read_of_at (.between progress) (isDelimiter_of_isSpace space),
      readBetween, if_pos space, Option.bind_eq_bind, Option.bind_some, read']

theorem continues_blank {blanks : List Char} (blank : Blank blanks) (continues : Continues ds progress next) :
    Continues (blanks ++ ds) progress next := by
  cases blanks with
  | nil => exact continues
  | cons c rest =>
    intro reader stands
    have space := blank c List.mem_cons_self
    obtain ⟨reader', read', stands'⟩ := reads_blank (fun d member =>
      blank d (List.mem_cons_of_mem c member)) continues.reads
    refine ⟨reader', ?_, stands'⟩
    rw [List.cons_append, List.foldlM_cons, read_of_at stands (isDelimiter_of_isSpace space), readBetween,
      if_pos space, Option.bind_eq_bind, Option.bind_some, read']

theorem continues_mark {c : Char} {mark : Mark} (known : Mark.ofChar? c = some mark)
    (taken : progress.takeMark mark = some next) (reads : Reads cs next last) :
    Continues (c :: cs) progress last := by
  intro reader stands
  obtain ⟨reader', read', stands'⟩ := reads
  have delimiter : isDelimiter c = true := by
    rw [isDelimiter, known, Option.isSome_some, Bool.or_true]
  have notSpace : isSpace c = false := by
    rw [isSpace, decide_eq_false_iff_not]
    intro space
    have none : [' ', '\t', '\n', '\r'].all (fun blank => (Mark.ofChar? blank).isNone) = true := by decide
    have unknown := List.all_eq_true.mp none c space
    rw [known] at unknown
    cases unknown
  have notQuote : c ≠ '"' := by
    rintro rfl
    cases known
  refine ⟨reader', ?_, stands'⟩
  rw [List.foldlM_cons, read_of_at stands delimiter, readBetween, notSpace, if_neg Bool.false_ne_true,
    if_neg notQuote]
  simp only [known, taken, Option.map_some, Option.bind_eq_bind, Option.bind_some]
  exact read'

theorem reads_nil (progress : Progress) : Reads [] progress progress :=
  ⟨_, rfl, .between progress⟩

theorem foldlM_word {before : List Char} (plain : ∀ c ∈ cs, isDelimiter c = false) :
    cs.foldlM read ⟨progress, .word before⟩ = some ⟨progress, .word (cs.reverse ++ before)⟩ := by
  induction cs generalizing before with
  | nil => rfl
  | cons c rest ih =>
    have first : read ⟨progress, .word before⟩ c = some ⟨progress, .word (c :: before)⟩ := by
      simp only [read, plain c List.mem_cons_self, Bool.false_eq_true, if_false]
    rw [List.foldlM_cons, first, Option.bind_eq_bind, Option.bind_some,
      ih fun d member => plain d (List.mem_cons_of_mem c member), List.reverse_cons, List.append_assoc]
    rfl

theorem reads_word {value : Value} (word : Word cs value) (taken : progress.take value = some next) :
    Reads cs progress next := by
  obtain ⟨c, rest, rfl⟩ := List.exists_cons_of_ne_nil word.some
  have plain := word.plain c List.mem_cons_self
  rw [isDelimiter, Bool.or_eq_false_iff, Bool.or_eq_false_iff] at plain
  obtain ⟨⟨notSpace, notQuote⟩, notMark⟩ := plain
  have unknown : Mark.ofChar? c = none := Option.not_isSome_iff_eq_none.mp (by simp [notMark])
  have first : read ⟨progress, .between⟩ c = some ⟨progress, .word [c]⟩ := by
    simp only [read, readBetween, notSpace, unknown, Bool.false_eq_true, if_false,
      if_neg (beq_eq_false_iff_ne.mp notQuote)]
  refine ⟨⟨progress, .word (rest.reverse ++ [c])⟩, ?_, .word ?_⟩
  · rw [List.foldlM_cons, first, Option.bind_eq_bind, Option.bind_some,
      foldlM_word fun d member => word.plain d (List.mem_cons_of_mem c member)]
  · rw [endWord, List.reverse_append, List.reverse_reverse, List.reverse_singleton, List.singleton_append,
      word.read, Option.bind_some, taken]

theorem exists_codes {form : Form} (readable : form.Readable) (cs : List Char) :
    ∃ codes, Escapes (cs.flatMap form.escape) codes ∧ decode? codes = some cs := by
  induction cs with
  | nil => exact ⟨[], fun _ _ => rfl, rfl⟩
  | cons c rest ih =>
    obtain ⟨more, escapes, decoded⟩ := ih
    obtain ⟨codes, first, decode⟩ := readable.escape c
    refine ⟨codes ++ more, first.append escapes, ?_⟩
    rw [decode, decoded]
    rfl

theorem reads_string {form : Form} (readable : form.Readable) {text : String}
    (taken : progress.takeText text = some next) : Reads (form.string text).toList progress next := by
  obtain ⟨codes, escapes, decoded⟩ := exists_codes readable text.toList
  have opened : read ⟨progress, .between⟩ '"' = some ⟨progress, .string []⟩ := rfl
  have closed : read ⟨progress, .string codes.reverse⟩ '"' = some ⟨next, .between⟩ := by
    simp only [read, endString, List.reverse_reverse, decoded, Option.bind_some, String.ofList_toList,
      taken, if_true, Option.map_some]
  refine ⟨⟨next, .between⟩, ?_, .between next⟩
  have inside := escapes progress []
  rw [List.append_nil] at inside
  rw [Form.string, String.toList_ofList, List.foldlM_cons, opened, Option.bind_eq_bind, Option.bind_some,
    List.foldlM_append, inside, Option.bind_eq_bind, Option.bind_some, List.foldlM_cons, closed]
  rfl

end Reader

/-! ### Values -/

/-- A value has to come, inside frames that it may open itself. -/
inductive Ready : Progress → List Frame → Prop
  | value (frames : List Frame) : Ready ⟨frames, .value⟩ frames
  | firstItem (frames : List Frame) : Ready ⟨frames, .firstItem⟩ (.items [] :: frames)

section Ready

variable {progress : Progress} {frames : List Frame} (ready : Ready progress frames)

include ready

theorem Ready.take (value : Value) : progress.take value = some ⟨frames, .done value⟩ := by
  cases ready <;> rfl

theorem Ready.takeText (text : String) : progress.takeText text = some ⟨frames, .done (.text text)⟩ := by
  cases ready <;> rfl

theorem Ready.openList : progress.takeMark .openList = some ⟨frames, .firstItem⟩ := by
  cases ready <;> rfl

theorem Ready.openRecord : progress.takeMark .openRecord = some ⟨frames, .firstName⟩ := by
  cases ready <;> rfl

end Ready

section Writing

open Value (Inside NamesOnce replaceItems replaceFields)

open Reader (Reads Continues)

variable {form : Form} (readable : form.Readable) {given : Binary64 → Value}

include readable

theorem continues_comma {cs : List Char} {progress next last : Progress}
    (taken : progress.takeMark .comma = some next) (depth : Nat) (reads : Reads cs next last) :
    Continues (form.comma.toList ++ ((form.margin depth).toList ++ cs)) progress last := by
  obtain ⟨blanks, split, blank⟩ := readable.comma
  rw [split]
  exact Reader.continues_mark rfl taken (Reader.reads_blank blank
    (Reader.reads_blank (readable.margin depth) reads))

theorem continues_colon {cs : List Char} {progress next last : Progress}
    (taken : progress.takeMark .colon = some next)
    (reads : Reads cs next last) : Continues (form.colon.toList ++ cs) progress last := by
  obtain ⟨blanks, split, blank⟩ := readable.colon
  rw [split]
  exact Reader.continues_mark rfl taken (Reader.reads_blank blank reads)

theorem continues_close {c : Char} {mark : Mark} (known : Mark.ofChar? c = some mark) {progress next : Progress}
    (taken : progress.takeMark mark = some next) (depth : Nat) :
    Continues ((form.margin depth).toList ++ [c]) progress next :=
  Reader.continues_blank (readable.margin depth) (Reader.continues_mark known taken (Reader.reads_nil next))

mutual

/-- A written value takes the reader from where a value has to come to where it is done. -/
theorem reads_write (depth : Nat) : ∀ value : Value, value.NamesOnce →
    (∀ x, Inside (.float x) value → Word (form.float x).toList (given x)) →
    ∀ {progress frames}, Ready progress frames →
      Reads (form.write depth value).toList progress ⟨frames, .done (value.replaceFloats given)⟩
  | .null, _, _, _, _, ready => Reader.reads_word word_null (ready.take .null)
  | .bool true, _, _, _, _, ready => Reader.reads_word word_true (ready.take (.bool true))
  | .bool false, _, _, _, _, ready => Reader.reads_word word_false (ready.take (.bool false))
  | .int n, _, _, _, _, ready => by
    rw [Form.write, intText, String.toList_ofList]
    exact Reader.reads_word (word_intDigits n) (ready.take (.int n))
  | .float x, _, floats, _, _, ready => Reader.reads_word (floats x (.self _)) (ready.take (given x))
  | .text text, _, _, _, _, ready => Reader.reads_string readable (ready.takeText text)
  | .list [], _, _, progress, frames, ready => by
    have close : Reads [']'] ⟨frames, .firstItem⟩ ⟨frames, .done (.list [])⟩ :=
      (Reader.continues_mark rfl rfl (Reader.reads_nil _)).reads
    have whole := (Reader.continues_mark (c := '[') rfl ready.openList close).reads
    simpa [Form.write, Value.replaceFloats, replaceItems] using whole
  -- the first item finds an empty list open; from then on the frame keeps the items before
  | .list (item :: rest), once, floats, progress, frames, ready => by
    have first : Reads (form.write (depth + 1) item).toList ⟨frames, .firstItem⟩
        ⟨.items [] :: frames, .done (item.replaceFloats given)⟩ :=
      reads_write (depth + 1) item (fun fields inside => once fields (.item List.mem_cons_self inside))
        (fun x inside => floats x (.item List.mem_cons_self inside)) (.firstItem frames)
    have others := continues_writeItems depth rest
      (fun other member fields inside => once fields (.item (List.mem_cons_of_mem item member) inside))
      (fun other member x inside => floats x (.item (List.mem_cons_of_mem item member) inside)) frames []
      (item.replaceFloats given)
    have opened := Reader.reads_blank (readable.margin (depth + 1)) (first.append others)
    have whole := (Reader.continues_mark (c := '[') rfl ready.openList opened).reads
    simpa [Form.write, Value.replaceFloats, replaceItems, List.append_assoc] using whole
  | .record [], _, _, progress, frames, ready => by
    have close : Reads ['\x7d'] ⟨frames, .firstName⟩ ⟨frames, .done (.record [])⟩ :=
      (Reader.continues_mark rfl rfl (Reader.reads_nil _)).reads
    have whole := (Reader.continues_mark (c := '\x7b') rfl ready.openRecord close).reads
    simpa [Form.write, Value.replaceFloats, replaceFields] using whole
  | .record ((name, value) :: rest), once, floats, progress, frames, ready => by
    have named : Reads (form.string name).toList ⟨frames, .firstName⟩ ⟨frames, .colon [] name⟩ :=
      Reader.reads_string readable rfl
    have first : Reads (form.write (depth + 1) value).toList ⟨.field [] name :: frames, .value⟩
        ⟨.field [] name :: frames, .done (value.replaceFloats given)⟩ :=
      reads_write (depth + 1) value (fun fields inside => once fields (.field List.mem_cons_self inside))
        (fun x inside => floats x (.field List.mem_cons_self inside)) (.value _)
    -- a name that comes again would replace the field before
    have distinct : ((replaceFields given ((name, value) :: rest)).map Prod.fst).Nodup := by
      rw [Value.names_replaceFields]
      exact once _ (.self _)
    have others := continues_writeFields depth rest
      (fun other member fields inside => once fields (.field (List.mem_cons_of_mem _ member) inside))
      (fun other member x inside => floats x (.field (List.mem_cons_of_mem _ member) inside)) frames []
      (name, value.replaceFloats given) distinct
    have field := named.append (continues_colon readable rfl (first.append others))
    have opened := Reader.reads_blank (readable.margin (depth + 1)) field
    have whole := (Reader.continues_mark (c := '\x7b') rfl ready.openRecord opened).reads
    simpa [Form.write, Value.replaceFloats, replaceFields, List.append_assoc] using whole

theorem continues_writeItems (depth : Nat) : ∀ items : List Value, (∀ item ∈ items, item.NamesOnce) →
    (∀ item ∈ items, ∀ x, Inside (.float x) item → Word (form.float x).toList (given x)) →
    ∀ frames before last,
      Continues ((form.writeItems (depth + 1) items).toList ++ ((form.margin depth).toList ++ [']']))
        ⟨.items before :: frames, .done last⟩
        ⟨frames, .done (.list ((last :: before).reverse ++ replaceItems given items))⟩
  | [], _, _, frames, before, last => by
    have taken : Progress.takeMark .closeList ⟨.items before :: frames, .done last⟩ =
        some ⟨frames, .done (.list ((last :: before).reverse ++ []))⟩ := by
      rw [List.append_nil]
      rfl
    exact continues_close readable rfl taken depth
  | item :: rest, once, floats, frames, before, last => by
    have first : Reads (form.write (depth + 1) item).toList ⟨.items (last :: before) :: frames, .value⟩
        ⟨.items (last :: before) :: frames, .done (item.replaceFloats given)⟩ :=
      reads_write (depth + 1) item (once item List.mem_cons_self) (floats item List.mem_cons_self) (.value _)
    have others := continues_writeItems depth rest (fun other member =>
      once other (List.mem_cons_of_mem item member))
      (fun other member => floats other (List.mem_cons_of_mem item member)) frames (last :: before)
      (item.replaceFloats given)
    have whole : Continues _ ⟨.items before :: frames, .done last⟩ _ :=
      continues_comma readable rfl (depth + 1) (first.append others)
    simpa [Form.writeItems, replaceItems, List.append_assoc] using whole

theorem continues_writeFields (depth : Nat) : ∀ fields : Value.Fields, (∀ field ∈ fields, field.2.NamesOnce) →
    (∀ field ∈ fields, ∀ x, Inside (.float x) field.2 → Word (form.float x).toList (given x)) →
    ∀ frames before (last : String × Value),
      (((last :: before).reverse ++ replaceFields given fields).map Prod.fst).Nodup →
      Continues ((form.writeFields (depth + 1) fields).toList ++ ((form.margin depth).toList ++ ['\x7d']))
        ⟨.field before last.1 :: frames, .done last.2⟩
        ⟨frames, .done (.record ((last :: before).reverse ++ replaceFields given fields))⟩
  | [], _, _, frames, before, last, distinct => by
    have taken : Progress.takeMark .closeRecord ⟨.field before last.1 :: frames, .done last.2⟩ =
        some ⟨frames, .done (.record ((last :: before).reverse ++ replaceFields given []))⟩ := by
      rw [← Value.Fields.ofList_of_nodup distinct]
      simp only [replaceFields, List.append_nil]
      rfl
    exact continues_close readable rfl taken depth
  | (name, value) :: rest, once, floats, frames, before, last, distinct => by
    have named : Reads (form.string name).toList ⟨frames, .name (last :: before)⟩
      ⟨frames, .colon (last :: before) name⟩ :=
      Reader.reads_string readable rfl
    have first : Reads (form.write (depth + 1) value).toList ⟨.field (last :: before) name :: frames, .value⟩
        ⟨.field (last :: before) name :: frames, .done (value.replaceFloats given)⟩ :=
      reads_write (depth + 1) value (once _ List.mem_cons_self) (floats _ List.mem_cons_self) (.value _)
    have others := continues_writeFields depth rest (fun other member =>
      once other (List.mem_cons_of_mem _ member))
      (fun other member => floats other (List.mem_cons_of_mem _ member)) frames (last :: before)
      (name, value.replaceFloats given) (by simpa [replaceFields] using distinct)
    have field := named.append (continues_colon readable rfl (first.append others))
    have whole : Continues _ ⟨.field before last.1 :: frames, .done last.2⟩ _ :=
      continues_comma readable rfl (depth + 1) field
    simpa [Form.writeFields, replaceFields, List.append_assoc] using whole

end

/-- The text of a value is read as the value, with what the form writes for its doubles. -/
theorem read?_text {value : Value} (once : value.NamesOnce)
    (floats : ∀ x, Inside (.float x) value → Word (form.float x).toList (given x)) :
    read? (text form value) = some (value.replaceFloats given) := by
  obtain ⟨reader, read, stands⟩ := reads_write readable 0 value once floats (.value [])
  rw [read?, text]
  change (List.foldlM Reader.read ⟨⟨[], .value⟩, .between⟩ _).bind _ = _
  rw [read, Option.bind_some, Reader.finish_of_at stands]
  rfl

end Writing

end Json

end AlertRange

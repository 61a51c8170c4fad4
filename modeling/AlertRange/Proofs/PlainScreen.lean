import AlertRange.Proofs.ShownText
import AlertRange.Proofs.Trimming

namespace AlertRange

namespace Text

/-! ### Cells -/

/-- A character of one cell on which no other one acts. -/
def Narrow (c : Char) : Prop :=
  charCells c = 1 ∧ isPlain c = true

instance : DecidablePred Narrow :=
  fun c => inferInstanceAs (Decidable (charCells c = 1 ∧ isPlain c = true))

theorem narrow_of_ascii {c : Char} (ascii : isAscii c = true) : Narrow c := by
  have code := isAscii_iff.mp ascii
  refine ⟨if_pos code, ?_⟩
  simp only [isPlain, isJoiner, isEmojiSelector, Bool.and_eq_true, Bool.not_eq_true', decide_eq_false_iff_not]
  omega

theorem narrow_blank : Narrow ' ' :=
  narrow_of_ascii (by decide)

theorem narrow_ellipsis : Narrow '…' := by decide +kernel

theorem not_blank_of_ascii {c : Char} (ascii : isAscii c = true) (other : c ≠ ' ') : isBlank c = false := by
  have code := isAscii_iff.mp ascii
  have space : c.toNat ≠ 0x20 := fun same => other (Char.toNat_inj.mp same)
  simp only [isBlank, isWhiteSpace, covers, whiteSpaceTable, List.any_cons, List.any_nil, Bool.or_false,
    Bool.or_eq_false_iff, Bool.and_eq_false_iff, decide_eq_false_iff_not]
  omega

theorem showable_narrow : Showable Narrow where
  ascii _ := narrow_of_ascii
  ellipsis := narrow_ellipsis
  dash := by decide +kernel
  no_joiner c narrow := by
    have plain := narrow.2
    rw [isPlain, Bool.and_eq_true, Bool.not_eq_true'] at plain
    exact plain.1

variable {cs : List Char}

theorem narrow_of_within {text : String} (ascii : Within (isAscii · = true) text) : ∀ c ∈ text.toList, Narrow c :=
  fun c member => narrow_of_ascii (ascii c member)

variable (narrow : ∀ c ∈ cs, Narrow c)

include narrow

theorem cells_of_narrow : cells cs = cs.length := by
  induction cs with
  | nil => rfl
  | cons c rest ih =>
    rw [cells_cons_of_plain fun d member => (narrow d member).2, (narrow c List.mem_cons_self).1,
      ih fun d member => narrow d (List.mem_cons_of_mem c member), List.length_cons, Nat.add_comm]

theorem not_mem_of_narrow {c : Char} (other : charCells c = 0) : c ∉ cs := by
  intro member
  have cell := (narrow c member).1
  omega

theorem printed_of_narrow : printed cs = cs := by
  rw [printed, List.filter_eq_self]
  intro c member
  have cell := (narrow c member).1
  rw [Bool.not_eq_true', Bool.eq_false_iff]
  intro dropped
  simp only [isDropped, Bool.or_eq_true, decide_eq_true_eq] at dropped
  rcases dropped with (((code | code) | code) | code) | code
  all_goals
    simp only [charCells, covers, code] at cell
    exact absurd cell (by decide)

theorem graphemes_of_narrow : graphemes cs = cs.map Grapheme.ofChar := by
  -- a character is looked at with the grapheme and the base before it, which change from one to the next
  have after (c : Char) (base : Option Char) {rest : List Char} (narrow : ∀ d ∈ rest, Narrow d) :
      graphemesAfter (.ofChar c) base rest = .ofChar c :: rest.map Grapheme.ofChar := by
    induction rest generalizing c base with
    | nil => rfl
    | cons d rest ih =>
      obtain ⟨cell, plain⟩ := narrow d List.mem_cons_self
      have later := ih d (some d) fun e member => narrow e (List.mem_cons_of_mem d member)
      have other := showable_narrow.no_joiner d ⟨cell, plain⟩
      cases rest with
      | nil => simp [graphemesAfter, cell]
      | cons e rest => simp [graphemesAfter, cell, other, later]
  cases cs with
  | nil => rfl
  | cons c rest => exact after c _ fun d member => narrow d (List.mem_cons_of_mem c member)

end Text

namespace Screen

open Text (Styled Narrow isPlain cells)

/-! ### Words on lines -/

theorem words_of_blank {cs : List Char} (none : nextWord? cs = none) : words cs = [] := by
  rw [words]
  split
  · rfl
  · next found =>
    rw [none] at found
    cases found

theorem words_of_word {cs word rest : List Char} (some : nextWord? cs = some (word, rest)) :
    words cs = word :: words rest := by
  rw [words]
  split
  · next found =>
    rw [some] at found
    cases found
  · next found =>
    rw [some] at found
    cases found
    rfl

theorem words_ne_nil {cs : List Char} (some : cs.dropWhile Text.isBlank ≠ []) : words cs ≠ [] := by
  cases found : nextWord? cs with
  | some split => simp [words_of_word found]
  | none =>
    cases body : cs.dropWhile Text.isBlank with
    | nil => exact absurd body some
    | cons c rest =>
      have letter : Text.isBlank c = false := Text.head_dropWhile (by rw [body]; rfl)
      simp [nextWord?, body, letter] at found

/-- What comes after a word and the white space around it begins with a word. -/
theorem nextWord?_rest {cs word rest : List Char} (found : nextWord? cs = some (word, rest)) :
    rest.dropWhile Text.isBlank = rest := by
  simp only [nextWord?] at found
  split at found
  · cases found
  · cases found
    exact List.dropWhile_idempotent _ _

theorem words_flatten {cs : List Char} (some : words cs ≠ []) : (words cs).flatten = cs := by
  induction cs using words.induct with
  | case1 cs none => exact absurd (words_of_blank none) some
  | case2 cs word rest found ih =>
    have later : (words rest).flatten = rest := by
      by_cases last : rest = []
      · rw [last, words_of_blank rfl]
        rfl
      · apply ih
        apply words_ne_nil
        rwa [nextWord?_rest found]
    rw [words_of_word found, List.flatten_cons, later, nextWord?_append found]

theorem setWords_of_fit {fold : Bool} {width : Nat} {all : List Line} (line : Line) {used : Nat}
    (narrow : ∀ word ∈ all, ∀ c ∈ word, Narrow c) (fit : used + all.flatten.length ≤ width) :
    setWords fold width line used all = [line ++ all.flatten] := by
  -- the white space behind a word need not fit, but it counts for the words after it
  induction all generalizing line used with
  | nil => simp [setWords]
  | cons word rest ih =>
    have first := narrow word List.mem_cons_self
    have trimmed := Text.trimEnd_isPrefix Text.isBlank word
    have room : wordCells word ≤ word.length := by
      rw [wordCells, Text.cells_of_narrow fun c member => first c (trimmed.subset member)]
      exact trimmed.length_le
    rw [List.flatten_cons, List.length_append] at fit
    rw [setWords, if_pos (by omega), Text.cells_of_narrow first,
      ih _ (fun other member => narrow other (List.mem_cons_of_mem word member)) (by omega), List.flatten_cons,
      List.append_assoc]

theorem divide_of_fit {fold : Bool} {width : Nat} {cs : List Char} (narrow : ∀ c ∈ cs, Narrow c)
    (fit : cs.length ≤ width) : divide fold width cs = [cs] := by
  unfold divide
  split
  · rfl
  · next some =>
    have whole : (words cs).flatten = cs := words_flatten some
    rw [setWords_of_fit [] _ (by rw [whole, Nat.zero_add]; exact fit), whole, List.nil_append]
    intro word member c inside
    apply narrow
    rw [← whole]
    exact List.mem_flatten.mpr ⟨word, member, inside⟩

theorem words_of_letters {cs : List Char} (some : cs ≠ []) (letters : ∀ c ∈ cs, Text.isBlank c = false) :
    words cs = [cs] := by
  have margin : cs.takeWhile Text.isBlank = [] := by
    cases cs with
    | nil => rfl
    | cons c rest => simp [letters c List.mem_cons_self]
  have body : cs.dropWhile Text.isBlank = cs :=
    Text.dropWhile_of_head fun c head => letters c (List.mem_of_head? head)
  have word : cs.takeWhile (!Text.isBlank ·) = cs :=
    List.takeWhile_eq_self_iff.mpr fun c member => by simp [letters c member]
  have tail : cs.dropWhile (!Text.isBlank ·) = [] :=
    List.dropWhile_eq_nil_iff.mpr fun c member => by simp [letters c member]
  have found : nextWord? cs = .some (cs, []) := by simp [nextWord?, margin, body, word, tail, some]
  rw [words_of_word found, words_of_blank rfl]

/-- A single word stands on one line, however long, if it is not to be cut into pieces. -/
theorem divide_of_letters {cs : List Char} (width : Nat) (some : cs ≠ [])
    (letters : ∀ c ∈ cs, Text.isBlank c = false) : divide false width cs = [cs] := by
  rw [divide, words_of_letters some letters]
  simp only [setWords]
  split
  · rfl
  · simp [closing]

/-! ### Texts on one line -/

section Lines

variable {text : Styled} {width : Nat}

theorem withChars_chars (text : Styled) : text.withChars text.chars = text := by
  rw [Styled.withChars, if_neg (Nat.lt_irrefl _)]

theorem lines_of_not_mem (unbroken : '\n' ∉ text.chars) : text.lines = [text] := by
  simp [Styled.lines, List.splitOn_eq_singleton unbroken]

theorem expandTabs_of_not_mem (untabbed : '\t' ∉ text.chars) : expandTabs text = text := by
  simp [expandTabs, List.splitOn_eq_singleton untabbed, tabLengths, Styled.cut, joinAtTabs]

theorem wrapLine_of_divide {fold : Bool} (single : divide fold width text.chars = [text.chars]) :
    wrapLine fold width text = [dropExcess width text] := by
  simp [wrapLine, single, Styled.cut]

theorem dropExcess_of_fit (fit : text.chars.length ≤ width) : dropExcess width text = text := by
  rw [dropExcess, Nat.sub_eq_zero_of_le fit, Nat.min_zero, Nat.sub_zero, List.take_length, withChars_chars]

theorem dropExcess_of_letters (letters : ∀ c ∈ text.chars, Text.isBlank c = false) :
    dropExcess width text = text := by
  have none : (text.chars.reverse.takeWhile Text.isBlank).length = 0 := by
    rw [List.length_eq_zero_iff, List.takeWhile_eq_nil_iff]
    intro inside
    rw [Bool.not_eq_true]
    exact letters _ (List.mem_reverse.mp (List.getElem_mem _))
  rw [dropExcess, none, Nat.zero_min, Nat.sub_zero, List.take_length, withChars_chars]

/-- Where no character acts on another, a line is as wide as its runs. -/
theorem sumCells_of_plain {runs : List Line} (plain : ∀ c ∈ runs.flatten, isPlain c = true) :
    sumCells runs = cells runs.flatten := by
  induction runs with
  | nil => rfl
  | cons run rest ih =>
    rw [List.flatten_cons] at plain ⊢
    rw [sumCells, ih fun c member => plain c (List.mem_append_right run member), Text.cells_append_of_plain plain]

theorem fit_of_le {runs : List Line} (le : sumCells runs ≤ width) : fit width runs = .ok runs :=
  if_neg (Nat.not_lt.mpr le)

theorem fill_of_eq {runs : List Line} (full : sumCells runs = width) : fill width runs = .ok runs := by
  rw [fill, if_neg (by omega), fit_of_le full.le]

end Lines

theorem render_text_of_narrow {width : Nat} {content : Styled} (sound : content.Sound Narrow)
    (fit : content.chars.length ≤ width) : (Block.text content).render width = .ok (content.chars ++ ['\n']) := by
  have narrow := sound.chars
  have count := Text.cells_of_narrow narrow
  have wrapped : wrap width content = .ok [content] := by
    rw [wrap, lines_of_not_mem (Text.not_mem_of_narrow narrow (by decide))]
    simp [expandTabs_of_not_mem (Text.not_mem_of_narrow narrow (by decide)),
      wrapLine_of_divide (divide_of_fit narrow fit),
      dropExcess_of_fit fit, crop, cropTo, count, fit, withChars_chars, Except.map]
  have runs : sumCells content.runs ≤ width := by
    rw [sumCells_of_plain, Styled.runs_flatten, count]
    · exact fit
    · rw [Styled.runs_flatten]
      exact fun c member => (narrow c member).2
  have shown : runsOf [content] = .ok [content.runs] :=
    runsOf_of_readable fun line member => (List.mem_singleton.mp member) ▸ sound.styles
  simp [Block.render, Block.lines, wrapped, shown, fit_of_le runs, bind, Except.bind, List.mapM_cons,
    pure, Except.pure, Styled.runs_flatten]

/-! ### Tables of words -/

structure IsWord (cs : Line) : Prop where
  some : cs ≠ []
  narrow : ∀ c ∈ cs, Narrow c
  letters : ∀ c ∈ cs, Text.isBlank c = false

/-- A value as a table shows it: one that is too long for the widest column is cut and ends in an ellipsis. -/
def shorten (value : Line) : Line :=
  if value.length ≤ valueLimit then value else value.take (valueLimit - 1) ++ ['…']

def inColumn (width : Nat) (value : Line) : Line :=
  (shorten value).leftpad width ' '

def tableLine (width : Nat) (value label : Line) : Line :=
  inColumn width value ++ blanks 2 ++ label.rightpad labelWidth ' '

theorem length_shorten (value : Line) : (shorten value).length = min valueLimit value.length := by
  have limit : 0 < valueLimit := by decide
  unfold shorten
  split
  · omega
  · rw [List.length_append, List.length_take, List.length_singleton]
    omega

theorem length_inColumn {width : Nat} {value : Line} (room : min valueLimit value.length ≤ width) :
    (inColumn width value).length = width := by
  rw [inColumn, List.length_leftpad, length_shorten]
  omega

theorem length_tableLine {width : Nat} {value label : Line} (room : min valueLimit value.length ≤ width)
    (short : label.length ≤ labelWidth) : (tableLine width value label).length = width + 8 := by
  have limit : labelWidth = 6 := rfl
  rw [tableLine, List.length_append, List.length_append, length_inColumn room]
  simp only [blanks, List.rightpad, List.length_append, List.length_replicate]
  omega

variable {width : Nat} {cs : Line}

theorem narrow_shorten (narrow : ∀ c ∈ cs, Narrow c) : ∀ c ∈ shorten cs, Narrow c := by
  unfold shorten
  split
  · exact narrow
  · intro c member
    rcases List.mem_append.mp member with inside | mark
    · exact narrow c (List.mem_of_mem_take inside)
    · rw [List.mem_singleton.mp mark]
      exact Text.narrow_ellipsis

theorem narrow_inColumn (narrow : ∀ c ∈ cs, Narrow c) : ∀ c ∈ inColumn width cs, Narrow c := by
  intro c member
  rcases List.mem_append.mp member with blank | inside
  · rw [(List.mem_replicate.mp blank).2]
    exact Text.narrow_blank
  · exact narrow_shorten narrow c inside

theorem narrow_tableLine {label : Line} (narrow : ∀ c ∈ cs, Narrow c) (narrow' : ∀ c ∈ label, Narrow c) :
    ∀ c ∈ tableLine width cs label, Narrow c := by
  have blank {n : Nat} : ∀ c ∈ blanks n, Narrow c := fun c member => mem_blanks member ▸ Text.narrow_blank
  intro c member
  rcases List.mem_append.mp member with front | cell
  · rcases List.mem_append.mp front with column | gap
    · exact narrow_inColumn narrow c column
    · exact blank c gap
  · rcases List.mem_append.mp cell with inside | after
    · exact narrow' c inside
    · exact blank c after

theorem takeWidth_ofChar (narrow : ∀ c ∈ cs, Narrow c) :
    takeWidth width (cs.map Text.Grapheme.ofChar) = cs.take width := by
  induction cs generalizing width with
  | nil => simp [takeWidth]
  | cons c rest ih =>
    have cell := (narrow c List.mem_cons_self).1
    cases width with
    | zero => simp [takeWidth]
    | succ width =>
      have later : takeWidth width (rest.map Text.Grapheme.ofChar) = rest.take width :=
        ih fun d member => narrow d (List.mem_cons_of_mem c member)
      simp [takeWidth, Text.Grapheme.ofChar, cell, later]

theorem cropTo_of_narrow (narrow : ∀ c ∈ cs, Narrow c) : cropTo width cs = .ok (cs.take width) := by
  have count := Text.cells_of_narrow narrow
  unfold cropTo
  split
  · next fits => rw [List.take_of_length_le (count ▸ fits)]
  · next wide =>
    split
    · next none => rw [none, List.take_zero]
    · cases cs with
      | nil => exact absurd (Nat.zero_le width) wide
      | cons c rest =>
        have other := Text.showable_narrow.no_joiner c (narrow c List.mem_cons_self)
        have widths := Text.sumWidths_graphemes other rest
        rw [cutGraphemes, widths, if_neg (by omega), if_neg (by omega), Text.graphemes_of_narrow narrow,
          takeWidth_ofChar narrow]

theorem runs_of_unstyled (some : cs ≠ []) : Styled.runs ⟨cs, []⟩ = [cs] := by
  have single (all : Line) (place : Nat) {cs : Line} (some : cs ≠ []) :
    Styled.runsFrom ⟨all, []⟩ place cs = [cs] := by
    induction cs generalizing place with
    | nil => exact absurd rfl some
    | cons c rest ih =>
      by_cases last : rest = []
      · rw [last]
        rfl
      · simp [Styled.runsFrom, ih (place + 1) last, Styled.isEnd]
  exact single cs 0 some

theorem withChars_of_unstyled (text other : Line) : Styled.withChars ⟨text, []⟩ other = ⟨other, []⟩ := by
  simp [Styled.withChars]

section Word

variable (word : IsWord cs) (room : min valueLimit cs.length ≤ width)

include word room

theorem cells_inColumn : cells (inColumn width cs) = width := by
  rw [Text.cells_of_narrow (narrow_inColumn word.narrow), length_inColumn room]

variable (limit : width ≤ valueLimit)

include limit

theorem ellipsize_of_word : ellipsize width ⟨cs, []⟩ = .ok ⟨shorten cs, []⟩ := by
  have count := Text.cells_of_narrow word.narrow
  unfold ellipsize shorten
  simp only [count]
  split
  · next fits => rw [if_pos (by omega)]
  · next wide =>
    have widest : width = valueLimit := by omega
    rw [if_neg (by omega), widest, cropTo_of_narrow word.narrow, Except.map, withChars_of_unstyled]

theorem alignRight_of_word : alignRight width ⟨cs, []⟩ = .ok ⟨inColumn width cs, []⟩ := by
  have whole : Text.trimEnd Text.isBlank cs = cs := by
    have trimmed : Text.trimEnd Text.isBlank (cs ++ []) = cs :=
      Text.trimEnd_append_of_all nofun fun c last => word.letters c (List.mem_of_getLast? last)
    rwa [List.append_nil] at trimmed
  have count := Text.cells_of_narrow (narrow_shorten word.narrow)
  simp [alignRight, whole, withChars_of_unstyled, ellipsize_of_word word room limit, bind, Except.bind,
    Styled.indent, inColumn, List.leftpad, count]

theorem alignedLines_of_word : alignedLines width ⟨cs, []⟩ = .ok [⟨inColumn width cs, []⟩] := by
  have untabbed : expandTabs ⟨cs, []⟩ = ⟨cs, []⟩ :=
    expandTabs_of_not_mem (Text.not_mem_of_narrow word.narrow (by decide))
  have single : wrapLine false width ⟨cs, []⟩ = [⟨cs, []⟩] := by
    rw [wrapLine_of_divide (divide_of_letters width word.some word.letters), dropExcess_of_letters word.letters]
  have fits : ellipsize width ⟨inColumn width cs, []⟩ = .ok ⟨inColumn width cs, []⟩ :=
    if_pos (cells_inColumn word room).le
  simp [alignedLines, untabbed, single, alignRight_of_word word room limit,
    fits, bind, Except.bind, pure, Except.pure, List.mapM_cons]

/-- A word stands on one line, at the right of its column, with a blank behind it. -/
theorem valueLines_of_word : valueLines width ⟨cs, []⟩ = .ok [[inColumn width cs, blanks 1]] := by
  have unbroken : Styled.lines ⟨cs, []⟩ = [⟨cs, []⟩] :=
    lines_of_not_mem (Text.not_mem_of_narrow word.narrow (by decide))
  have some : inColumn width cs ≠ [] := by
    rw [← List.length_pos_iff, length_inColumn room]
    have letter := List.length_pos_iff.mpr word.some
    have limit : 0 < valueLimit := by decide
    omega
  have cells := cells_inColumn word room
  have shown : runsOf [⟨inColumn width cs, []⟩] = .ok [[inColumn width cs]] := by
    rw [runsOf_of_readable, List.map_singleton, runs_of_unstyled some]
    intro line member span inside
    rw [List.mem_singleton.mp member] at inside
    cases inside
  have filled : fill width [inColumn width cs] = .ok [inColumn width cs] := fill_of_eq (by simp [sumCells, cells])
  have spaced : fill (width + 1) [inColumn width cs, blanks 1] = .ok [inColumn width cs, blanks 1] :=
    fill_of_eq (by simp [sumCells, cells, show Text.cells (blanks 1) = 1 by decide])
  simp [valueLines, unbroken, alignedLines_of_word word room limit, shown, filled,
    spaced, bind, Except.bind, pure, Except.pure, List.mapM_cons]

end Word

/-- A row of a word and a label that fits in its column. -/
structure Row.IsPlain (row : Row) : Prop where
  unstyled : row.value.spans = []
  word : IsWord row.value.chars
  short : row.label.length ≤ labelWidth
  narrow : ∀ c ∈ row.label.toList, Narrow c

theorem isWord_of_ascii (text : String) (some : text.toList ≠ [])
    (ascii : Text.Within (Text.isAscii · = true) text)
    (joined : ' ' ∉ text.toList) : IsWord text.toList where
  some := some
  narrow := Text.narrow_of_within ascii
  letters c member := Text.not_blank_of_ascii (ascii c member) fun same => joined (same ▸ member)

theorem isPlain_heading : heading.IsPlain where
  unstyled := rfl
  word := isWord_of_ascii "Value" (by decide) (Text.Within.ascii _ (by decide)) (by decide)
  short := by decide
  narrow := Text.narrow_of_within (Text.Within.ascii "Result" (by decide))

section Table

theorem isBlank_of_isLineBreak {c : Char} (ends : isLineBreak c = true) : Text.isBlank c = true := by
  simp only [isLineBreak, Text.isBlank, Text.isWhiteSpace, Text.covers, Text.whiteSpaceTable, List.any_cons,
    List.any_nil, Bool.or_false, Bool.or_eq_true, Bool.and_eq_true, decide_eq_true_eq] at ends ⊢
  omega

variable {row : Row} {rows : List Row}

theorem naturalWidth_of_word {value : Styled} (word : IsWord value.chars) :
    naturalWidth value = value.chars.length := by
  have unbroken : ∀ c ∈ value.chars, isLineBreak c = false := by
    intro c member
    have letter := word.letters c member
    rw [Bool.eq_false_iff] at letter ⊢
    exact fun ends => letter (isBlank_of_isLineBreak ends)
  rw [naturalWidth, List.splitOnP_eq_singleton unbroken]
  simp [Text.cells_of_narrow word.narrow]

theorem valueWidth_of_plain (plain : ∀ row ∈ rows, row.IsPlain) :
    valueWidth rows = min valueLimit (max 5 ((rows.map fun row => row.value.chars.length).foldr max 0)) := by
  have natural : rows.map (fun row => naturalWidth row.value) = rows.map fun row => row.value.chars.length :=
    List.map_congr_left fun row member => naturalWidth_of_word (plain row member).word
  rw [valueWidth, List.map_cons, List.foldr_cons, natural, naturalWidth_of_word isPlain_heading.word]
  rfl

theorem le_valueWidth (plain : ∀ row ∈ rows, row.IsPlain) (member : row ∈ heading :: rows) :
    min valueLimit row.value.chars.length ≤ valueWidth rows := by
  have most : row.value.chars.length ≤ ((heading :: rows).map fun row => naturalWidth row.value).foldr max 0 := by
    have word : IsWord row.value.chars := by
      rcases List.mem_cons.mp member with rfl | inside
      · exact isPlain_heading.word
      · exact (plain row inside).word
    exact List.le_max_of_le' 0 (List.mem_map_of_mem member) (naturalWidth_of_word word).ge
  unfold valueWidth
  omega

theorem rowLines_of_plain (plain : row.IsPlain) {width : Nat}
    (room : min valueLimit row.value.chars.length ≤ width) (limit : width ≤ valueLimit) :
    rowLines width row = .ok [[inColumn width row.value.chars, blanks 1, labelCell row.label]] := by
  obtain ⟨⟨chars, spans⟩, label⟩ := row
  obtain rfl : spans = [] := plain.unstyled
  rw [rowLines, valueLines_of_word plain.word room limit]
  rfl

theorem flatten_rowRuns (width : Nat) (row : Row) :
    [inColumn width row.value.chars, blanks 1, labelCell row.label].flatten =
      tableLine width row.value.chars row.label.toList := by
  simp [tableLine, labelCell, blanks, List.rightpad, String.length_toList]

theorem cells_tableLine (plain : row.IsPlain) {width : Nat}
    (room : min valueLimit row.value.chars.length ≤ width) :
    cells (tableLine width row.value.chars row.label.toList) = width + 8 := by
  rw [Text.cells_of_narrow (narrow_tableLine plain.word.narrow plain.narrow),
    length_tableLine room (String.length_toList ▸ plain.short)]

theorem fit_rowRuns (plain : row.IsPlain) {column width : Nat}
    (room : min valueLimit row.value.chars.length ≤ column) (wide : column + 8 ≤ width) :
    fit width [inColumn column row.value.chars, blanks 1, labelCell row.label] =
      .ok [inColumn column row.value.chars, blanks 1, labelCell row.label] := by
  have narrow : ∀ c ∈ tableLine column row.value.chars row.label.toList, Narrow c :=
    narrow_tableLine plain.word.narrow plain.narrow
  rw [← flatten_rowRuns] at narrow
  apply fit_of_le
  rw [sumCells_of_plain fun c member => (narrow c member).2, flatten_rowRuns, cells_tableLine plain room]
  exact wide

theorem render_table_of_words (plain : ∀ row ∈ rows, row.IsPlain) {width : Nat} (wide : valueLimit + 8 ≤ width) :
    (Block.table rows).render width = .ok ((heading :: rows).flatMap fun row =>
      tableLine (valueWidth rows) row.value.chars row.label.toList ++ ['\n']) := by
  have all : ∀ row ∈ heading :: rows, row.IsPlain := by
    intro row member
    rcases List.mem_cons.mp member with rfl | inside
    · exact isPlain_heading
    · exact plain row inside
  have limit : valueWidth rows ≤ valueLimit := Nat.min_le_left _ _
  let runs (row : Row) : List Line := [inColumn (valueWidth rows) row.value.chars, blanks 1, labelCell row.label]
  have lines : tableLines rows = .ok ((heading :: rows).map runs) := by
    have each : (heading :: rows).mapM (rowLines (valueWidth rows)) =
      .ok ((heading :: rows).map fun row => [runs row]) :=
      mapM_of_ok fun row member => rowLines_of_plain (all row member) (le_valueWidth plain member) limit
    rw [tableLines, each, Except.map, ← List.flatMap_def, ← List.map_eq_flatMap]
  have shown : ((heading :: rows).map runs).mapM (fit width) = .ok ((heading :: rows).map runs) := by
    have each : ∀ made ∈ (heading :: rows).map runs, fit width made = .ok (id made) := by
      intro made member
      obtain ⟨row, inside, rfl⟩ := List.mem_map.mp member
      exact fit_rowRuns (all row inside) (le_valueWidth plain inside) (by omega)
    rw [mapM_of_ok each, List.map_id]
  simp only [Block.render, Block.lines, lines, shown, bind, Except.bind, List.flatMap_map]
  congr 1
  apply List.flatMap_congr
  intro row member
  rw [flatten_rowRuns]

end Table

end Screen

/-! ### Lines of a text -/

namespace Text

theorem not_mem_of_mem_splitOn {cs piece : List Char} (member : piece ∈ List.splitOn '\n' cs) : '\n' ∉ piece := by
  induction cs generalizing piece with
  | nil => simp_all [List.splitOn]
  | cons c rest ih =>
    obtain ⟨first, more, found⟩ := List.exists_cons_of_ne_nil (List.splitOn_ne_nil '\n' rest)
    rw [found] at ih
    rw [List.splitOn_cons_eq_if_modifyHead, found] at member
    split at member
    · rcases List.mem_cons.mp member with rfl | later
      · simp
      · exact ih later
    · next other =>
      rcases List.mem_cons.mp member with rfl | later
      · have := ih List.mem_cons_self
        intro inside
        rcases List.mem_cons.mp inside with same | inside
        · simp [← same] at other
        · exact this inside
      · exact ih (List.mem_cons_of_mem _ later)

theorem splitOn_append_cons (a b : List Char) :
    List.splitOn '\n' (a ++ '\n' :: b) = List.splitOn '\n' a ++ List.splitOn '\n' b := by
  induction a with
  | nil => simp [List.splitOn_cons_eq_if_modifyHead]
  | cons c rest ih =>
    obtain ⟨first, more, found⟩ := List.exists_cons_of_ne_nil (List.splitOn_ne_nil '\n' rest)
    rw [List.cons_append, List.splitOn_cons_eq_if_modifyHead, List.splitOn_cons_eq_if_modifyHead, ih, found]
    split <;> simp

theorem mem_splitOn_of_trimEnd {cs line : List Char} (member : line ∈ List.splitOn '\n' (trimEnd (· == '\n') cs)) :
    line ∈ List.splitOn '\n' cs := by
  have split := trimEnd_append (· == '\n') cs
  have ends : ∀ c ∈ (cs.reverse.takeWhile (· == '\n')).reverse, c = '\n' := by
    intro c inside
    simpa using List.mem_takeWhile_imp (List.mem_reverse.mp inside)
  cases after : (cs.reverse.takeWhile (· == '\n')).reverse with
  | nil =>
    rw [after, List.append_nil] at split
    rwa [split] at member
  | cons c rest =>
    rw [after] at split ends
    obtain rfl := ends c List.mem_cons_self
    rw [← split, splitOn_append_cons]
    exact List.mem_append_left _ member

theorem splitOn_flatMap {front : List (List Char)} (unbroken : ∀ line ∈ front, '\n' ∉ line) (after : List Char) :
    List.splitOn '\n' (front.flatMap (· ++ ['\n']) ++ after) = front ++ List.splitOn '\n' after := by
  induction front with
  | nil => rfl
  | cons line rest ih =>
    have later := ih fun other member => unbroken other (List.mem_cons_of_mem line member)
    rw [List.flatMap_cons, List.append_assoc, List.append_assoc, List.singleton_append, splitOn_append_cons, later,
      List.splitOn_eq_singleton (unbroken line List.mem_cons_self), List.singleton_append, List.cons_append]

theorem trimEnd_append_of_line {line ends : List Char} (before : List Char) (filled : line ≠ [])
    (unbroken : '\n' ∉ line)
    (all : ∀ c ∈ ends, (c == '\n') = true) : trimEnd (· == '\n') (before ++ line ++ ends) = before ++ line := by
  apply trimEnd_append_of_all all
  intro c last
  rw [List.getLast?_append_of_ne_nil _ filled] at last
  rw [beq_eq_false_iff_ne]
  exact fun same => unbroken (same ▸ List.mem_of_getLast? last)

theorem splitOn_trimEnd_of_ends {lines : List (List Char)} {ends : List Char} (some : lines ≠ [])
    (filled : ∀ line ∈ lines, line ≠ []) (unbroken : ∀ line ∈ lines, '\n' ∉ line)
    (all : ∀ c ∈ ends, (c == '\n') = true) :
    List.splitOn '\n' (trimEnd (· == '\n') (lines.flatMap (· ++ ['\n']) ++ ends)) = lines := by
  have split := List.dropLast_append_getLast some
  have last := List.getLast_mem some
  have further : ∀ c ∈ '\n' :: ends, (c == '\n') = true := by simpa using all
  have trimmed := trimEnd_append_of_line (lines.dropLast.flatMap (· ++ ['\n'])) (filled _ last)
    (unbroken _ last) further
  have whole : lines.flatMap (· ++ ['\n']) ++ ends =
      lines.dropLast.flatMap (· ++ ['\n']) ++ lines.getLast some ++ '\n' :: ends := by
    conv_lhs => rw [← split, List.flatMap_append]
    simp
  rw [whole, trimmed, splitOn_flatMap fun line member => unbroken line (List.mem_of_mem_dropLast member),
    List.splitOn_eq_singleton (unbroken _ last), split]

/-- Without the line ends behind it, a text of lines and something after them has these lines, and those of
what comes after them. -/
theorem splitOn_trimEnd {front : List (List Char)} (some : front ≠ []) (filled : ∀ line ∈ front, line ≠ [])
    (unbroken : ∀ line ∈ front, '\n' ∉ line) (after : List Char) :
    ∃ more, List.splitOn '\n' (trimEnd (· == '\n') (front.flatMap (· ++ ['\n']) ++ after)) = front ++ more ∧
      ∀ line, line ≠ [] → '\n' ∉ line → after = line ++ ['\n'] → more = [line] := by
  -- if nothing but line ends comes after the lines, the last of them loses its end too
  by_cases nothing : ∀ c ∈ after, (c == '\n') = true
  · refine ⟨[], ?_, ?_⟩
    · rw [splitOn_trimEnd_of_ends some filled unbroken nothing, List.append_nil]
    · rintro line some' unbroken' rfl
      obtain ⟨c, member⟩ := List.exists_mem_of_ne_nil line some'
      have same := nothing c (List.mem_append_left _ member)
      exact absurd (beq_iff_eq.mp same ▸ member) unbroken'
  · refine ⟨List.splitOn '\n' (trimEnd (· == '\n') after), ?_, ?_⟩
    · rw [trimEnd_append_of_some _ nothing, splitOn_flatMap unbroken]
    · rintro line some' unbroken' rfl
      have trimmed : trimEnd (· == '\n') (line ++ ['\n']) = line :=
        trimEnd_append_of_line [] some' unbroken' (by simp)
      rw [trimmed, List.splitOn_eq_singleton unbroken']

end Text

end AlertRange

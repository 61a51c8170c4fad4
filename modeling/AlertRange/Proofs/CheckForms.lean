import AlertRange.Proofs.DecodedReport
import AlertRange.Proofs.PlainScreen
import AlertRange.Proofs.ShortestDigits

namespace AlertRange.Report

open Screen (Line Row Block tableLine valueLimit)
open Text (Within Narrow isAscii)
open Text.Styled (plain styled)

/-! ### What the forms show -/

section Forms

variable (range : Range) (values : List Value)

/-- The column of the values is as wide as the longest of them, up to a limit. -/
def columnWidth : Nat :=
  min valueLimit (max 5 ((values.map fun value => value.display.length).foldr max 0))

def checkWords : List Line :=
  values.map fun value => (verdict (range.raises value)).toList

def tableHead : Line :=
  tableLine (columnWidth values) "Value".toList "Result".toList

def tableRows : List Line :=
  values.map fun value => tableLine (columnWidth values) value.display.toList (verdict (range.raises value)).toList

def rangeLine : Line :=
  ("  range: " ++ range.violation).toList

def countLine : Line :=
  ("  alerts: " ++ intText (values.countP range.raises) ++ "/" ++ intText values.length).toList

end Forms

def saysAlert (line : Line) : Bool :=
  "ALERT ".toList.isSuffixOf line

theorem saysAlert_tableLine (width : Nat) (value : Line) (alert : Bool) :
    saysAlert (tableLine width value (verdict alert).toList) = alert := by
  have cell : tableLine width value (verdict alert).toList =
      (Screen.inColumn width value ++ Screen.blanks 2) ++ (if alert then "ALERT " else "OK    ").toList := by
    cases alert <;> rfl
  rw [Bool.eq_iff_iff, saysAlert, List.isSuffixOf_iff_suffix, cell]
  cases alert with
  | true => exact iff_of_true (List.suffix_append _ _) rfl
  | false =>
    refine iff_of_false ?_ (by decide)
    intro found
    have inside := List.suffix_of_suffix_length_le found (List.suffix_append _ "OK    ".toList) (by decide)
    exact absurd inside (by decide)

theorem countP_saysAlert (range : Range) (values : List Value) :
    (tableRows range values).countP saysAlert = values.countP range.raises := by
  rw [tableRows, List.countP_map]
  exact List.countP_congr fun value _ => by rw [Function.comp_apply, saysAlert_tableLine]

/-! ### Numbers on a page -/

section Number

variable {value : Value} (number : value.Checkable)

include number

theorem display_ne_nil : value.display.toList ≠ [] := by
  have regular := Coercion.fieldDialect_regular
  cases number with
  | int n =>
    obtain ⟨d, token, -⟩ := Numeral.Dialect.spells_intDigits regular n
    change (String.ofList (intDigits n)).toList ≠ []
    rw [String.toList_ofList]
    exact Numeral.Dialect.number_ne_nil regular token
  | float x =>
    change x.text.toList ≠ []
    by_cases nan : x = .nan
    · rw [nan]
      decide
    · obtain ⟨n, token, -⟩ := x.exists_number_text regular nan
      exact Numeral.Dialect.number_ne_nil regular token

theorem isWord_display : Screen.IsWord value.display.toList :=
  Screen.isWord_of_ascii _ (display_ne_nil number) (ascii_display number)
    (not_mem_display number (by decide) (by decide))

end Number

theorem chars_plain {text : String} (ascii : Within (isAscii · = true) text) : (plain text).chars = text.toList :=
  Text.printed_of_narrow (Text.narrow_of_within ascii)

theorem chars_styled (style : String) {text : String} (ascii : Within (isAscii · = true) text) :
    (styled style text).chars = text.toList :=
  Text.printed_of_narrow (Text.narrow_of_within ascii)

theorem isPlain_rowOfItem {item : Item} (number : item.value.Checkable) : (rowOfItem item).IsPlain where
  unstyled := rfl
  word := by
    rw [rowOfItem, chars_plain (ascii_display number)]
    exact isWord_display number
  short := by
    change (verdict item.alert).length ≤ Screen.labelWidth
    cases item.alert <;> decide
  narrow := Text.narrow_of_within (ascii_verdict item.alert)

/-! ### Parts of the page -/

theorem ascii_countLine (range : Range) (values : List Value) :
    Within (isAscii · = true) (.ofList (countLine range values)) := by
  have alerts := (Within.ascii "  alerts: " (by decide)).append (ascii_intText (values.countP range.raises))
  rw [countLine, String.ofList_toList]
  exact (alerts.append (Within.ascii "/" (by decide))).append (ascii_intText values.length)

theorem printPart_of_render {block : Block} {shown : List Char} (rendered : block.render pageWidth = .ok shown) :
    printPart (.ok block) = .ok shown := by
  change (block.render pageWidth).mapError FormError.screen = _
  rw [rendered]
  rfl

theorem render_keyText {name text : String} {shown : Text.Styled} (ascii : Within (isAscii · = true) name)
    (sound : shown.Sound Narrow) (chars : shown.chars = text.toList)
    (fit : name.length + text.length + 4 ≤ pageWidth) :
    (Block.text (keyText name ++ shown)).render pageWidth = .ok
      (("  " ++ name ++ ": " ++ text).toList ++ ['\n']) := by
  have key := ((Within.ascii "  " (by decide)).append ascii).append (Within.ascii ": " (by decide))
  have whole : (keyText name ++ shown).chars = ("  " ++ name ++ ": " ++ text).toList := by
    rw [Text.Styled.chars_append, keyText, chars_styled _ key, chars, ← String.toList_append]
  rw [Screen.render_text_of_narrow ((sound_keyText Text.showable_narrow ascii).append sound), whole]
  rw [whole, String.length_toList]
  simp only [String.length_append]
  have marks : "  ".length = 2 ∧ ": ".length = 2 := by decide
  omega

theorem render_fieldBlock {name text : String} (ascii : Within (isAscii · = true) name)
    (shown : Within (isAscii · = true) text) (fit : name.length + text.length + 4 ≤ pageWidth) :
    (fieldBlock name text).render pageWidth = .ok (("  " ++ name ++ ": " ++ text).toList ++ ['\n']) :=
  render_keyText ascii (Text.Styled.sound_plain (shown.mono Text.showable_narrow.ascii)) (chars_plain shown) fit

theorem render_statusBlock {op : String} (ascii : Within (isAscii · = true) op) (fit : op.length + 5 ≤ pageWidth) :
    (statusBlock op).render pageWidth = .ok (("OK   " ++ op).toList ++ ['\n']) := by
  have chars : (styled "range.ok" "OK" ++ plain " " ++ styled "range.op" ("  " ++ op)).chars =
    ("OK   " ++ op).toList := by
    rw [Text.Styled.chars_append, chars_styled "range.op" ((Within.ascii "  " (by decide)).append ascii),
      String.toList_append, String.toList_append]
    rfl
  cases sound_statusBlock Text.showable_narrow ascii with
  | text sound =>
    rw [statusBlock, Screen.render_text_of_narrow sound, chars]
    rw [chars, String.length_toList, String.length_append]
    have status : "OK   ".length = 5 := by decide
    omega

theorem render_rangeBlock (range : Range) :
    (fieldBlock "range" range.violation).render pageWidth = .ok (rangeLine range ++ ['\n']) := by
  have short := range.length_violation_le
  apply render_fieldBlock (Within.ascii "range" (by decide)) range.ascii_violation
  have name : "range".length = 5 := by decide
  have width : pageWidth = 120 := rfl
  omega

section Page

variable (range : Range) {values : List Value} (numbers : ∀ v ∈ values, v.Checkable)
  (writable : ∀ v ∈ values, v.Writable)

include numbers

theorem isPlain_rows : ∀ row ∈ (values.map (itemOf range)).map rowOfItem, row.IsPlain := by
  intro row member
  obtain ⟨item, inside, rfl⟩ := List.mem_map.mp member
  exact isPlain_rowOfItem (numbers_itemOf range numbers item inside)

theorem valueWidth_rows : Screen.valueWidth ((values.map (itemOf range)).map rowOfItem) = columnWidth values := by
  have lengths : ((values.map (itemOf range)).map rowOfItem).map (fun row => row.value.chars.length) =
      values.map fun value => value.display.length := by
    rw [List.map_map, List.map_map]
    apply List.map_congr_left
    intro value member
    rw [← String.length_toList, ← chars_plain (ascii_display (numbers value member))]
    rfl
  rw [Screen.valueWidth_of_plain (isPlain_rows range numbers), lengths, columnWidth]

theorem table_lines : (Screen.heading :: (values.map (itemOf range)).map rowOfItem).map
    (fun row => tableLine (columnWidth values) row.value.chars row.label.toList) =
      tableHead values :: tableRows range values := by
  rw [List.map_cons, tableRows, List.map_map, List.map_map]
  apply List.cons_eq_cons.mpr ⟨rfl, ?_⟩
  apply List.map_congr_left
  intro value member
  rw [← chars_plain (ascii_display (numbers value member))]
  rfl

theorem render_table : (Block.table ((values.map (itemOf range)).map rowOfItem)).render pageWidth =
    .ok ((tableHead values :: tableRows range values).flatMap (· ++ ['\n'])) := by
  rw [Screen.render_table_of_words (isPlain_rows range numbers) (by decide), valueWidth_rows range numbers,
    ← table_lines range numbers, List.flatMap_map]

theorem width_of_table {line : Line} (member : line ∈ tableHead values :: tableRows range values) :
    line.length = columnWidth values + 8 ∧ (∀ c ∈ line, Narrow c) := by
  have plain := isPlain_rows range numbers
  rw [← table_lines range numbers] at member
  obtain ⟨row, inside, rfl⟩ := List.mem_map.mp member
  have room := Screen.le_valueWidth plain inside
  rw [valueWidth_rows range numbers] at room
  have fits : row.IsPlain := by
    rcases List.mem_cons.mp inside with rfl | later
    · exact Screen.isPlain_heading
    · exact plain row later
  exact ⟨Screen.length_tableLine room (String.length_toList ▸ fits.short),
    Screen.narrow_tableLine fits.word.narrow fits.narrow⟩

omit numbers in
theorem render_countBlock (few : values.length < 10 ^ 54) :
    (fieldBlock "alerts" (intText (values.countP range.raises) ++ "/" ++ intText values.length)).render pageWidth =
      .ok (countLine range values ++ ['\n']) := by
  have some : values.countP range.raises ≤ values.length := List.countP_le_length
  have alerts : (intText (values.countP range.raises)).length ≤ 54 := length_intText_le (by decide) (by omega)
  have count : (intText values.length).length ≤ 54 := length_intText_le (by decide) few
  have counts := ((ascii_intText (values.countP range.raises)).append (Within.ascii "/" (by decide))).append
    (ascii_intText values.length)
  have label : "  " ++ "alerts" ++ ": " = "  alerts: " := by decide
  rw [render_fieldBlock (Within.ascii "alerts" (by decide)) counts]
  · rw [label, countLine]
    simp only [String.append_assoc]
  · simp only [String.length_append]
    have name : "alerts".length = 6 ∧ "/".length = 1 := by decide
    have width : pageWidth = 120 := rfl
    omega

include writable in
theorem parts_of_check (warnings : List String) :
    (success checkOp (checkFields range (values.map (itemOf range))) warnings).parts false =
      [.ok (statusBlock checkOp), .ok (fieldBlock "range" range.violation),
        .ok (.table ((values.map (itemOf range)).map rowOfItem)),
        .ok (fieldBlock "alerts" (intText (values.countP range.raises) ++ "/" ++ intText values.length))] := by
  have written : ∀ item ∈ values.map (itemOf range), item.value.Writable := by
    intro item member
    obtain ⟨value, inside, rfl⟩ := List.mem_map.mp member
    exact writable value inside
  have table : tablePart (checkFields range (values.map (itemOf range))) = _ :=
    tablePart_of_numbers (numbers_itemOf range numbers) written
  have counts := countPart_checkFields range (values.map (itemOf range))
  rw [countP_itemOf, List.length_map] at counts
  rw [← table, ← counts]
  rfl

include writable in
theorem printParts_of_check (warnings : List String) {counts : List Char}
    (rendered : (fieldBlock "alerts" (intText (values.countP range.raises) ++ "/" ++ intText values.length)).render
      pageWidth = .ok counts) :
    ((success checkOp (checkFields range (values.map (itemOf range))) warnings).parts false).mapM printPart =
      .ok ["OK   check_range".toList ++ ['\n'], rangeLine range ++ ['\n'],
        (tableHead values :: tableRows range values).flatMap (· ++ ['\n']), counts] := by
  have status := render_statusBlock (Within.ascii checkOp (by decide)) (by decide)
  rw [parts_of_check range numbers writable]
  simp only [List.mapM_cons, List.mapM_nil, printPart_of_render status,
    printPart_of_render (render_rangeBlock range),
    printPart_of_render (render_table range numbers), printPart_of_render rendered]
  rfl

theorem narrow_of_front {line : Line}
    (member : line ∈ "OK   check_range".toList :: rangeLine range :: tableHead values :: tableRows range values) :
    line ≠ [] ∧ ∀ c ∈ line, Narrow c := by
  rcases List.mem_cons.mp member with rfl | later
  · exact ⟨by decide, Text.narrow_of_within (Within.ascii "OK   check_range" (by decide))⟩
  rcases List.mem_cons.mp later with rfl | table
  · have ascii := (Within.ascii "  range: " (by decide)).append range.ascii_violation
    exact ⟨by simp [rangeLine], Text.narrow_of_within ascii⟩
  · obtain ⟨length, narrow⟩ := width_of_table range numbers table
    exact ⟨List.ne_nil_of_length_pos (by omega), narrow⟩

include writable in
/-- The page has a line for the status, one for the range, one for the head of the table, one for each value,
and then the counts. -/
theorem page_of_check (warnings : List String) :
    ∃ text counts, (success checkOp (checkFields range (values.map (itemOf range))) warnings).page false =
      .ok text ∧
      List.splitOn '\n' text.toList =
        "OK   check_range".toList :: rangeLine range :: tableHead values :: tableRows range values ++ counts ∧
      (values.length < 10 ^ 54 → counts = [countLine range values]) := by
  have counted := ((ascii_intText (values.countP range.raises)).append (Within.ascii "/" (by decide))).append
    (ascii_intText values.length)
  obtain ⟨counts, rendered, -⟩ :=
    (sound_fieldBlock Text.showable_narrow (Within.ascii "alerts" (by decide)) counted).render
    Text.showable_narrow pageWidth
  let front := "OK   check_range".toList :: rangeLine range :: tableHead values :: tableRows range values
  have shown : ∀ line ∈ front, line ≠ [] ∧ ∀ c ∈ line, Narrow c := fun line => narrow_of_front range numbers
  have some : front ≠ [] := List.cons_ne_nil _ _
  -- the page is cut behind its last line, which is a line of the counts or, without any, one of the table
  obtain ⟨more, split, single⟩ := Text.splitOn_trimEnd some (fun line member => (shown line member).1)
    (fun line member => Text.not_mem_of_narrow (shown line member).2 (by decide)) counts
  refine ⟨.ofList (Text.trimEnd (· == '\n') (front.flatMap (· ++ ['\n']) ++ counts)), more, ?_, ?_, ?_⟩
  · rw [page, printParts_of_check range numbers writable warnings rendered]
    change Except.ok _ = _
    simp [front]
  · rw [String.toList_ofList, split]
  · intro few
    have line := render_countBlock range few
    rw [rendered] at line
    cases line
    have narrow := Text.narrow_of_within (ascii_countLine range values)
    rw [String.toList_ofList] at narrow
    refine single _ ?_ (Text.not_mem_of_narrow narrow (by decide)) rfl
    simp [countLine]

end Page

theorem quietText_of_check (range : Range) {values : List Value} (some : values ≠ []) (warnings : List String) :
    ∃ text, (success checkOp (checkFields range (values.map (itemOf range))) warnings).quietText = .ok text ∧
      List.splitOn '\n' text.toList = checkWords range values := by
  refine ⟨"\n".intercalate ((values.map (itemOf range)).map fun item => verdict item.alert), ?_, ?_⟩
  · change (verdictsOf ((values.map (itemOf range)).map Item.asData)).map ("\n".intercalate ·) = _
    rw [verdictsOf_items]
    rfl
  · have unbroken : ∀ word ∈ checkWords range values, '\n' ∉ word := by
      intro word member
      obtain ⟨value, -, rfl⟩ := List.mem_map.mp member
      cases range.raises value <;> decide
    have words : ((values.map (itemOf range)).map fun item => verdict item.alert).map String.toList =
        checkWords range values := by
      rw [List.map_map, List.map_map]
      rfl
    rw [String.toList_intercalate, words]
    exact List.splitOn_intercalate '\n' unbroken (by simpa [checkWords] using some)

end AlertRange.Report

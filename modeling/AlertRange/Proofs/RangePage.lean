import AlertRange.Proofs.CheckForms

namespace AlertRange

theorem CommandLine.readValue?_text {x : Binary64} (number : x ≠ .nan) : readValue? x.text = some x := by
  obtain ⟨n, token, rounds⟩ := x.exists_number_text valueDialect_regular number
  rw [readValue?_of_number token, (Numeral.roundsTo_iff (Numeral.Dialect.number_ne_nan token)).mp rounds]

namespace Report

open Screen (Line Block)
open Text (Within isAscii)
open Text.Styled (plain styled)

def shownSpec (range : Range) : String :=
  if range.spec = "" then "\"\"" else range.spec

def invertText (range : Range) : String :=
  if range.invert then "True" else "False"

def rangeLines (range : Range) : List String :=
  ["OK   parse_range", "  spec: " ++ shownSpec range, "  start: " ++ range.lower.text,
    "  end: " ++ range.upper.text, "  invert: " ++ invertText range, "  violation: " ++ range.violation]

variable (range : Range)

theorem ascii_shownSpec : Within (isAscii · = true) (shownSpec range) := by
  unfold shownSpec
  split
  · exact Within.ascii "\"\"" (by decide)
  · exact range.ascii_spec

theorem length_shownSpec_le : (shownSpec range).length ≤ 52 := by
  unfold shownSpec
  split
  · decide
  · exact range.length_spec_le

theorem shownSpec_eq_quotes_iff : shownSpec range = "\"\"" ↔ range.spec = "" := by
  unfold shownSpec
  split
  · next empty => exact iff_of_true rfl empty
  · next filled =>
    refine iff_of_false ?_ filled
    intro quotes
    obtain ⟨back, read, -⟩ := Spec.exists_parse_spec range
    have refused : (Spec.parse "\"\"").isOk = false := by decide +kernel
    rw [quotes] at read
    rw [read] at refused
    cases refused

theorem ascii_invertText : Within (isAscii · = true) (invertText range) := by
  unfold invertText
  split <;> exact Within.ascii _ (by decide)

theorem ascii_rangeLines {line : String} (member : line ∈ rangeLines range) : Within (isAscii · = true) line := by
  have label (text : String) (ascii : text.toList.all isAscii = true) := Within.ascii text ascii
  simp only [rangeLines, List.mem_cons, List.not_mem_nil, or_false] at member
  rcases member with rfl | rfl | rfl | rfl | rfl | rfl
  · exact label "OK   parse_range" (by decide)
  · exact (label "  spec: " (by decide)).append (ascii_shownSpec range)
  · exact (label "  start: " (by decide)).append range.lower.ascii_text
  · exact (label "  end: " (by decide)).append range.upper.ascii_text
  · exact (label "  invert: " (by decide)).append (ascii_invertText range)
  · exact (label "  violation: " (by decide)).append range.ascii_violation

theorem length_rangeLines_le {line : String} (member : line ∈ rangeLines range) : line.length ≤ pageWidth := by
  have spec := length_shownSpec_le range
  have start := range.lower.length_text_le
  have stop := range.upper.length_text_le
  have violation := range.length_violation_le
  have invert : (invertText range).length ≤ 5 := by
    unfold invertText
    split <;> decide
  have width : pageWidth = 120 := rfl
  have labels : "  spec: ".length = 8 ∧ "  start: ".length = 9 ∧ "  end: ".length = 7 ∧ "  invert: ".length = 10 ∧
      "  violation: ".length = 13 := by decide
  simp only [rangeLines, List.mem_cons, List.not_mem_nil, or_false] at member
  rcases member with rfl | rfl | rfl | rfl | rfl | rfl
  · decide
  all_goals
    rw [String.length_append]
    omega

theorem printParts_of_range (verbose : Bool) :
    ((success parseOp (rangeFields range) []).parts verbose).mapM printPart =
      .ok ((rangeLines range).map fun line => line.toList ++ ['\n']) := by
  have spec := length_shownSpec_le range
  have start := range.lower.length_text_le
  have stop := range.upper.length_text_le
  have violation := range.length_violation_le
  have width : pageWidth = 120 := rfl
  have names : "spec".length = 4 ∧ "start".length = 5 ∧ "end".length = 3 ∧ "violation".length = 9 := by decide
  have specStyle : Text.Styled.Readable "range.spec" := readable_of_mem (by decide)
  have specSound : (styled "range.spec" (shownSpec range)).Sound Text.Narrow :=
    Text.Styled.sound_styled specStyle ((ascii_shownSpec range).mono Text.showable_narrow.ascii)
  have parts : (success parseOp (rangeFields range) []).parts verbose =
      [.ok (statusBlock parseOp), .ok (.text (keyText "spec" ++ styled "range.spec" (shownSpec range))),
        .ok (fieldBlock "start" range.lower.asData.display), .ok (fieldBlock "end" range.upper.asData.display),
        .ok (fieldBlock "invert" (Value.bool range.invert).display),
          .ok (fieldBlock "violation" range.violation)] := by
    have start : fieldPart (rangeFields range) "start" = _ := fieldPart_of_writable rfl range.lower.writable_asData
    have stop : fieldPart (rangeFields range) "end" = _ := fieldPart_of_writable rfl range.upper.writable_asData
    rw [← start, ← stop]
    rfl
  have inverted : (Value.bool range.invert).display = invertText range := by
    unfold invertText
    cases range.invert <;> rfl
  rw [parts, Binary64.display_asData, Binary64.display_asData, inverted]
  have status := render_statusBlock (Within.ascii parseOp (by decide)) (by decide)
  have specLine := render_keyText (Within.ascii "spec" (by decide)) specSound
    (chars_styled "range.spec" (ascii_shownSpec range)) (by omega)
  have startLine := render_fieldBlock (Within.ascii "start" (by decide)) range.lower.ascii_text (by omega)
  have stopLine := render_fieldBlock (Within.ascii "end" (by decide)) range.upper.ascii_text (by omega)
  have invertLine := render_fieldBlock (Within.ascii "invert" (by decide)) (ascii_invertText range)
    (by unfold invertText; split <;> decide)
  have violationLine := render_fieldBlock (Within.ascii "violation" (by decide)) range.ascii_violation (by omega)
  simp only [List.mapM_cons, List.mapM_nil, printPart_of_render status, printPart_of_render specLine,
    printPart_of_render startLine, printPart_of_render stopLine, printPart_of_render invertLine,
    printPart_of_render violationLine]
  rfl

theorem page_of_rangeFields :
    ∃ page, (∀ verbose, (success parseOp (rangeFields range) []).page verbose = .ok page) ∧
      List.splitOn '\n' page.toList = (rangeLines range).map String.toList := by
  let lines := (rangeLines range).map String.toList
  refine ⟨.ofList (Text.trimEnd (· == '\n') (lines.flatMap (· ++ ['\n']) ++ [])), ?_, ?_⟩
  · intro verbose
    have shown : ((rangeLines range).map fun line => line.toList ++ ['\n']).flatten =
        lines.flatMap (· ++ ['\n']) ++ [] := by
      rw [List.append_nil, List.flatMap_map, List.flatMap_def]
    rw [page, printParts_of_range, ← shown]
    rfl
  · rw [String.toList_ofList]
    apply Text.splitOn_trimEnd_of_ends
    · simp [lines, rangeLines]
    · simp [lines, rangeLines]
    · intro line member
      obtain ⟨text, inside, rfl⟩ := List.mem_map.mp member
      exact Text.not_mem_of_narrow (Text.narrow_of_within (ascii_rangeLines range inside)) (by decide)
    · simp

/-- The page of the report on a range is six lines, none of them too long to stand as it is printed. The text
on the second is the canonical one, which reads back as the range, and two quotes if that is empty; the
numbers on the third and the fourth are the bounds; and the last has the words for its alerts. -/
theorem page_of_range {spec : String} {range : Range} (read : Spec.parse spec = .ok range) :
    ∃ report page shown back, (ofSpec spec).outcome = .ok report ∧
      (∀ verbose, report.format ⟨false, false, verbose⟩ = .ok page) ∧
      List.splitOn '\n' page.toList =
        ["OK   parse_range", "  spec: " ++ shown, "  start: " ++ range.lower.text, "  end: " ++ range.upper.text,
          "  invert: " ++ (if range.invert then "True" else "False"),
            "  violation: " ++ range.violation].map String.toList ∧
      (∀ line ∈ List.splitOn '\n' page.toList, Text.cells line ≤ 120) ∧
      (shown = if range.spec = "" then "\"\"" else range.spec) ∧ (shown = "\"\"" ↔ range.spec = "") ∧
      Spec.parse range.spec = .ok back ∧ back.same range = true ∧
      CommandLine.readValue? range.lower.text = some range.lower ∧
      CommandLine.readValue? range.upper.text = some range.upper := by
  obtain ⟨page, shown, lines⟩ := page_of_rangeFields range
  obtain ⟨back, parsed, same, -⟩ := Spec.exists_parse_spec range
  refine ⟨success parseOp (rangeFields range) [], page, shownSpec range, back, by rw [ofSpec_of_ok read],
    shown, lines,
    ?_, rfl, shownSpec_eq_quotes_iff range, parsed, same, CommandLine.readValue?_text range.lower_ne_nan,
    CommandLine.readValue?_text range.upper_ne_nan⟩
  intro line member
  rw [lines] at member
  obtain ⟨text, inside, rfl⟩ := List.mem_map.mp member
  rw [Text.cells_of_narrow (Text.narrow_of_within (ascii_rangeLines range inside)), String.length_toList]
  exact length_rangeLines_le range inside

/-- Minus zero shows as a bound, though its text is empty. -/
theorem page_of_range_negative_zero :
    ∃ report page, (ofSpec "-0:").outcome = .ok report ∧ report.format ⟨false, false, true⟩ = .ok page ∧
      List.splitOn '\n' page.toList =
        ["OK   parse_range", "  spec: \"\"", "  start: -0.0", "  end: inf", "  invert: False",
          "  violation: outside range 0:"].map String.toList := by
  let range : Range := ⟨.finite true 0 fits_zero, .infinity, false, by decide +kernel⟩
  have read : Spec.parse "-0:" = .ok range := eq_ok_of_toOption (by decide +kernel)
  obtain ⟨report, page, shown, back, made, forms, lines, -, spec, -⟩ := page_of_range read
  refine ⟨report, page, made, forms true, ?_⟩
  rw [lines, spec]
  decide +kernel

end Report

end AlertRange

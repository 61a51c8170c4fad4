import AlertRange.Proofs.DecodedReport
import AlertRange.Proofs.ExitCode
import AlertRange.Proofs.FirstWord
import AlertRange.Proofs.WrappedPage

namespace AlertRange.Report

open Screen (Block IsWord)
open Text (Styled Within Wrappable endsInJoiner isAscii isPrintable printed)
open Text.Styled (plain styled)

variable {report : Report} {verbose : Bool}

theorem not_endsInJoiner_of_ascii {op : String} (ascii : Within (isAscii · = true) op) :
    endsInJoiner (printed op.toList) = false := by
  cases last : (printed op.toList).getLast? with
  | none => simp [endsInJoiner, last]
  | some c =>
    have inside : c ∈ op.toList := List.mem_of_mem_filter (List.mem_of_getLast? last)
    rw [endsInJoiner, last]
    exact Text.showable_isPrintable.no_joiner c (Text.showable_isPrintable.ascii c (ascii c inside))

/-! ### Pages -/

theorem begins_of_page {content : Styled} {rest : List Part}
    (parts : report.parts verbose = .ok (.text content) :: rest)
    (printable : ∀ c ∈ content.chars, isPrintable c = true) {word : List Char} (isWord : IsWord word)
    (short : word.length < pageWidth) (begins : word ++ [' '] <+: content.chars) {page : String}
    (shown : report.page verbose = .ok page) : word <+: page.toList := by
  have absent {c : Char} (hidden : isPrintable c = false) : c ∉ content.chars := by
    intro member
    rw [printable c member] at hidden
    cases hidden
  unfold Report.page at shown
  rw [parts] at shown
  obtain ⟨pieces, printed, equal⟩ := Yields.of_bind shown
  cases equal
  obtain ⟨first, more, made, -, rfl⟩ := Yields.of_mapM_cons printed
  have rendered : (Block.text content).render pageWidth = .ok first := Yields.of_mapError made
  have unbroken : '\n' ∉ content.chars := absent (by decide +kernel)
  have untabbed : '\t' ∉ content.chars := absent (by decide +kernel)
  have held := Screen.begins_of_render isWord short begins unbroken untabbed rendered
  rw [String.toList_ofList, List.flatten_cons]
  apply Text.prefix_trimEnd (held.trans (List.prefix_append _ _))
  intro c last
  have letter := isWord.letters c (List.mem_of_getLast? last)
  rw [beq_eq_false_iff_ne]
  rintro rfl
  exact absurd letter (by decide)

theorem screen_of_page_error {blocks : List Block} (parts : report.parts verbose = blocks.map .ok)
    {error : FormError}
    (unshown : report.page verbose = .error error) : ∃ fault, error = .screen fault := by
  unfold Report.page at unshown
  rw [parts] at unshown
  cases printed : (blocks.map Except.ok).mapM printPart with
  | ok pieces =>
    rw [printed] at unshown
    cases unshown
  | error stopped =>
    rw [printed] at unshown
    cases unshown
    obtain ⟨part, member, stop⟩ := Yields.of_mapM_error printed
    obtain ⟨block, -, rfl⟩ := List.mem_map.mp member
    change (block.render pageWidth).mapError _ = _ at stop
    cases rendered : block.render pageWidth with
    | ok shown =>
      rw [rendered] at stop
      cases stop
    | error fault =>
      rw [rendered] at stop
      cases stop
      exact ⟨fault, rfl⟩

/-! ### Status -/

def SaysError (text : String) : Prop :=
  "ERROR".toList <+: text.toList

theorem not_saysError_of_head {text : String} (head : text.toList.head? ≠ some 'E') : ¬ SaysError text := by
  rintro ⟨rest, whole⟩
  rw [← whole] at head
  exact head rfl

section Refused

variable {spec : String} {error : SpecError} (refused : Spec.parse spec = .error error) {op : String}
  (ascii : Within (isAscii · = true) op)

include refused ascii

theorem saysError_of_page {page : String} (shown : (failed op (failureOf error)).page verbose = .ok page) :
    SaysError page := by
  have isWord : IsWord "ERROR".toList :=
    Screen.isWord_of_ascii "ERROR" (by decide) (Within.ascii _ (by decide)) (by decide)
  have sound := sound_failureBlock Text.showable_isPrintable refused (fun _ => id) ascii
  cases sound with
  | text sound =>
    refine begins_of_page rfl sound.chars isWord (by decide) ?_ shown
    change "ERROR".toList ++ [' '] <+: printed "ERROR".toList ++ printed ("  " ++ op).toList ++ printed _
    rw [Text.printed_append, List.append_assoc, List.append_assoc]
    exact ⟨' ' :: (printed op.toList ++ printed _), rfl⟩

theorem format_of_refused {mode : Mode} (noJson : mode.json = false) {text : String}
    (shown : (failed op (failureOf error)).format mode = .ok text) : SaysError text := by
  unfold format at shown
  rw [noJson] at shown
  simp only [Bool.false_eq_true, if_false] at shown
  split at shown
  · cases shown
    rw [SaysError, String.toList_append, String.toList_append, String.toList_append, List.append_assoc,
      List.append_assoc]
    exact List.prefix_append_of_prefix (by decide)
  · exact saysError_of_page refused ascii shown

omit ascii in
theorem writable_detail : ∀ pair ∈ (failureOf error).detail, pair.2.Writable := by
  intro pair member
  obtain ⟨name, shown, rfl, -⟩ := detail_cases refused pair member
  exact Value.writable_text shown

/-- Only the page with its details may not be shown, for a text with joiners that have nothing to act on. -/
theorem stop_of_refused {mode : Mode} {stopped : FormError}
    (unshown : (failed op (failureOf error)).format mode = .error stopped) :
    mode = ⟨false, false, true⟩ ∧ '\u200d' ∈ spec.toList ∧
      (∃ text ∈ (failed op (failureOf error)).toldTexts true, ¬ Wrappable text) ∧
      ∃ fault, stopped = .screen fault := by
  have detailed : mode = ⟨false, false, true⟩ := by
    by_contra other
    have brief : mode.json = true ∨ mode.quiet = true ∨ mode.verbose = false := by
      rcases mode with ⟨_ | _, _ | _, _ | _⟩ <;> first | exact absurd rfl other | decide
    obtain ⟨text, shown, -⟩ := format_refused refused ascii brief
    rw [unshown] at shown
    cases shown
  subst detailed
  refine ⟨rfl, ?_, ?_, ?_⟩
  · by_contra absent
    obtain ⟨text, shown⟩ := format_refused_of_not_mem refused ascii absent ⟨false, false, true⟩
    rw [unshown] at shown
    cases shown
  · by_contra wrappable
    push Not at wrappable
    obtain ⟨blocks, contents, parts, known⟩ :=
      exists_contents_of_failed rfl wrappable (writable_detail refused) (not_endsInJoiner_of_ascii ascii)
    obtain ⟨page, shown, -⟩ := page_complete parts known
    change (failed op (failureOf error)).page true = _ at unshown
    rw [unshown] at shown
    cases shown
  · have parts : (failed op (failureOf error)).parts true =
        (failureBlock (failed op (failureOf error)) :: detailBlocks true (failureOf error)).map .ok :=
      congrArg (_ :: ·) (detailParts_of_writable (writable_detail refused))
    exact screen_of_page_error parts unshown

end Refused

theorem not_saysError_of_page (op : String) (good : report.ok = true) (name : report.op = op)
    (ascii : Within (isAscii · = true) op) {page : String} (shown : report.page verbose = .ok page) :
    ¬ SaysError page := by
  have isWord : IsWord "OK".toList :=
    Screen.isWord_of_ascii "OK" (by decide) (Within.ascii _ (by decide)) (by decide)
  have sound := sound_statusBlock Text.showable_isPrintable ascii
  cases sound with
  | text sound =>
    have parts : report.parts verbose = .ok (statusBlock op) :: (report.parts verbose).tail := by
      simp [parts, good, name, successParts]
    have begins : "OK".toList <+: page.toList := by
      refine begins_of_page parts sound.chars isWord (by decide) ?_ shown
      exact ⟨printed ("  " ++ op).toList, rfl⟩
    obtain ⟨rest, whole⟩ := begins
    apply not_saysError_of_head
    rw [← whole, show ("OK".toList ++ rest).head? = some 'O' from rfl]
    decide

theorem not_saysError_of_words (alerts : List Bool) : ¬ SaysError ("\n".intercalate (alerts.map verdict)) := by
  apply not_saysError_of_head
  cases alerts with
  | nil => decide
  | cons alert rest =>
    have head (more : String) : (verdict alert ++ more).toList.head? ≠ some 'E' := by
      rw [String.toList_append]
      cases alert <;> simp [verdict]
    cases rest with
    | nil => simpa using head ""
    | cons next more =>
      rw [List.map_cons, List.map_cons, String.intercalate_cons_cons, String.append_assoc]
      exact head _

theorem not_saysError_of_ok (returned : report.Returned) (good : report.ok = true) {mode : Mode}
    (noJson : mode.json = false) {text : String} (shown : report.format mode = .ok text) : ¬ SaysError text := by
  unfold format at shown
  rw [noJson] at shown
  simp only [Bool.false_eq_true, if_false] at shown
  rcases returned_cases returned with ⟨range, rfl⟩ | ⟨range, values, numbers, rfl⟩ | ⟨spec, error, op, -, -, rfl⟩
  · split at shown
    · change (Except.ok "OK: parse_range" : Except FormError String) = _ at shown
      cases shown
      exact not_saysError_of_head (by decide)
    · exact not_saysError_of_page parseOp good rfl (Within.ascii _ (by decide)) shown
  · split at shown
    · change (verdictsOf ((values.map (itemOf range)).map Item.asData)).map ("\n".intercalate ·) = _ at shown
      rw [verdictsOf_items] at shown
      cases shown
      have words := not_saysError_of_words ((values.map (itemOf range)).map Item.alert)
      rwa [List.map_map] at words
    · exact not_saysError_of_page checkOp good rfl (Within.ascii _ (by decide)) shown
  · cases good

theorem numbers_of_ofCheck {spec : String} {range : Range} (read : Spec.parse spec = .ok range)
    {values : List Value}
    (made : (ofCheck spec values).outcome = .ok report) : ∀ v ∈ values, v.Checkable := by
  by_contra mixed
  obtain ⟨before, offending, after, rfl, numbers, other⟩ := exists_first_offending mixed
  rw [ofCheck_of_not_checkable read numbers other] at made
  cases made

theorem refused_or_ok {spec : String}
    (made : (ofSpec spec).outcome = .ok report ∨ ∃ values, (ofCheck spec values).outcome = .ok report) :
    (∃ error op, Spec.parse spec = .error error ∧ Within (isAscii · = true) op ∧
      report = failed op (failureOf error)) ∨
      report.ok = true := by
  cases read : Spec.parse spec with
  | error error =>
    left
    rcases made with made | ⟨values, made⟩
    · rw [ofSpec_of_error read] at made
      cases made
      exact ⟨error, _, rfl, .ascii _ (by decide), rfl⟩
    · rw [ofCheck_of_error read] at made
      cases made
      exact ⟨error, _, rfl, .ascii _ (by decide), rfl⟩
  | ok range =>
    right
    rcases made with made | ⟨values, made⟩
    · rw [ofSpec_of_ok read] at made
      cases made
      rfl
    · rw [ofCheck_of_checkable read (numbers_of_ofCheck read made)] at made
      cases made
      rfl

/-- Whether a report on the check of numbers is put in a form depends on the numbers for the page alone. -/
theorem format_of_numbers (range : Range) {values : List Value} (numbers : ∀ v ∈ values, v.Checkable)
    (mode : Mode) :
    let report := success checkOp (checkFields range (values.map (itemOf range))) (warningsFor values)
    (∃ text, report.format mode = .ok text) ∨
      (mode.json = false ∧ mode.quiet = false ∧ report.format mode = .error (.unwritten .tooManyDigits) ∧
        ∃ n, .int n ∈ values ∧ 10 ^ digitLimit ≤ n.natAbs) := by
  intro report
  by_cases shown : mode.json = true ∨ mode.quiet = true ∨ ∀ item ∈ values.map (itemOf range), item.value.Writable
  · obtain ⟨text, shown, -⟩ := format_check range (numbers_itemOf range numbers) (warningsFor values) shown
    exact Or.inl ⟨text, shown⟩
  · push Not at shown
    obtain ⟨noJson, noQuiet, item, member, unwritable⟩ := shown
    obtain ⟨value, inside, rfl⟩ := List.mem_map.mp member
    have whole := mt (numbers value inside).writable_iff.mpr unwritable
    push Not at whole
    obtain ⟨n, rfl, long⟩ := whole
    simp only [ne_eq, Bool.not_eq_true] at noJson noQuiet
    have stopped := page_of_long range (numbers_itemOf range numbers)
      (warningsFor values) member rfl long mode.verbose
    refine Or.inr ⟨noJson, noQuiet, ?_, n, inside, long⟩
    rw [format, noJson, noQuiet]
    exact stopped

theorem format_of_ok {spec : String}
    (made : (ofSpec spec).outcome = .ok report ∨ ∃ values, (ofCheck spec values).outcome = .ok report)
    (good : report.ok = true) (mode : Mode) :
    (∃ text, report.format mode = .ok text) ∨
      (mode.json = false ∧ mode.quiet = false ∧ report.format mode = .error (.unwritten .tooManyDigits) ∧
        ∃ values n, (ofCheck spec values).outcome = .ok report ∧ .int n ∈ values ∧
          10 ^ digitLimit ≤ n.natAbs) := by
  cases read : Spec.parse spec with
  | error error =>
    rcases made with made | ⟨values, made⟩
    · rw [ofSpec_of_error read] at made
      cases made
      cases good
    · rw [ofCheck_of_error read] at made
      cases made
      cases good
  | ok range =>
    rcases made with made | ⟨values, made⟩
    · rw [ofSpec_of_ok read] at made
      cases made
      obtain ⟨text, shown, -⟩ := format_range range mode
      exact Or.inl ⟨text, shown⟩
    · have numbers := numbers_of_ofCheck read made
      have whole := made
      rw [ofCheck_of_checkable read numbers] at made
      cases made
      obtain shown | ⟨noJson, noQuiet, stopped, n, inside, long⟩ := format_of_numbers range numbers mode
      · exact Or.inl shown
      · exact Or.inr ⟨noJson, noQuiet, stopped, values, n, whole, inside, long⟩

/-! ### Results -/

/-- Every report of an operation can be put in every form, but for two kinds of pages: that with the details
of a text that cannot be read, where joiners of that text that have nothing to act on may stop the screen, and
that of a check of a number with too many digits, which has no text to be shown. Each form tells whether the
report is a failure, in JSON by a field and else by the word it begins with. No flag changes the JSON text,
and only quiet and JSON change the text in short. -/
theorem forms_of_returned {spec : String}
    (made : (ofSpec spec).outcome = .ok report ∨ ∃ values, (ofCheck spec values).outcome = .ok report) :
    (∀ mode, (∃ text, report.format mode = .ok text) ∨
      mode = ⟨false, false, true⟩ ∧ report.ok = false ∧ '\u200d' ∈ spec.toList ∧
        (∃ text ∈ report.toldTexts true, ¬ Wrappable text) ∧
          (∃ fault, report.format mode = .error (.screen fault)) ∨
      mode.json = false ∧ mode.quiet = false ∧ report.format mode = .error (.unwritten .tooManyDigits) ∧
        ∃ values n, (ofCheck spec values).outcome = .ok report ∧ .int n ∈ values ∧ 10 ^ digitLimit ≤ n.natAbs) ∧
    (∀ mode text, report.format mode = .ok text →
      (mode.json = true → ∃ fields : Value.Fields, Json.read? text = some (.record fields) ∧
        fields.get? "ok" = some (.bool report.ok)) ∧
      (mode.json = false → (SaysError text ↔ report.ok = false))) ∧
    (∀ mode mode' : Mode, mode.json = true → mode'.json = true → report.format mode = report.format mode') ∧
    ∀ verbose verbose', report.format ⟨false, true, verbose⟩ = report.format ⟨false, true, verbose'⟩ := by
  have returned : report.Returned := made.elim (.ofSpec spec) fun ⟨values, made⟩ => .ofCheck spec values made
  refine ⟨fun mode => ?_, fun mode text shown => ⟨fun json => ?_, fun noJson => ?_⟩, ?_, fun _ _ => rfl⟩
  · rcases refused_or_ok made with ⟨error, op, refused, ascii, rfl⟩ | good
    · cases shown : (failed op (failureOf error)).format mode with
      | ok text => exact Or.inl ⟨text, rfl⟩
      | error stopped =>
        obtain ⟨detailed, joined, told, fault, rfl⟩ := stop_of_refused refused ascii shown
        exact Or.inr (Or.inl ⟨detailed, rfl, joined, told, fault, rfl⟩)
    · exact (format_of_ok made good mode).imp_right Or.inr
  · obtain ⟨text', told, read⟩ := read?_of_returned returned
    rw [format_of_json json, told] at shown
    cases shown
    exact ⟨_, read, rfl⟩
  · rcases refused_or_ok made with ⟨error, op, refused, ascii, rfl⟩ | good
    · exact iff_of_true (format_of_refused refused ascii noJson shown) rfl
    · exact iff_of_false (not_saysError_of_ok returned good noJson shown) (by simp [good])
  · intro mode mode' json json'
    rw [format_of_json json, format_of_json json']

theorem forms_of_returned_joiner :
    ∃ report text, (ofSpec "x\u200d").outcome = .ok report ∧ report.ok = false ∧
      report.format ⟨false, true, false⟩ = .ok text ∧ SaysError text := by
  have unread : (Spec.parse "x\u200d").isOk = false := by decide +kernel
  obtain ⟨error, refused⟩ := exists_error_of_isOk unread
  have made := congrArg Inquiry.outcome (ofSpec_of_error refused)
  obtain ⟨shown, status, -, -⟩ := forms_of_returned (Or.inl made)
  obtain ⟨text, short⟩ | ⟨detailed, -⟩ | ⟨-, loud, -⟩ := shown ⟨false, true, false⟩
  · exact ⟨_, text, made, rfl, short, ((status _ text short).2 rfl).mpr rfl⟩
  · cases detailed
  · cases loud

/-- The page with the details of a text that begins with joiners is not shown. -/
theorem not_shown_joinedSpec :
    ∃ report, (ofSpec CommandLine.joinedSpec).outcome = .ok report ∧
      (report.format ⟨false, false, true⟩).isOk = false := by
  obtain ⟨error, refused⟩ := CommandLine.exists_parse_joinedSpec
  exact ⟨_, congrArg Inquiry.outcome (ofSpec_of_error refused), CommandLine.page_joinedSpec refused parseOp⟩

end AlertRange.Report

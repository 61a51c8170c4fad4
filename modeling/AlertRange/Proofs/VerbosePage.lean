import AlertRange.Proofs.BlockLines
import AlertRange.Proofs.CheckForms
import AlertRange.Proofs.OneLineJson
import AlertRange.Proofs.WrappedPage

namespace AlertRange

/-! ### Line ends -/

theorem Text.exists_line_ends (before : List Char) :
    ∃ ends, before ++ ['\n'] = trimEnd (· == '\n') (before ++ ['\n']) ++ List.replicate (ends + 1) '\n' := by
  have split := trimEnd_append (· == '\n') (before ++ ['\n'])
  obtain ⟨dropped, known⟩ : ∃ dropped, ((before ++ ['\n']).reverse.takeWhile (· == '\n')).reverse =
    dropped := ⟨_, rfl⟩
  have all : ∀ c ∈ dropped, c = '\n' := by
    intro c member
    rw [← known] at member
    have ended := List.mem_takeWhile_imp (List.mem_reverse.mp member)
    exact beq_iff_eq.mp ended
  have some : 0 < dropped.length := by
    rw [← known, List.reverse_append]
    simp
  refine ⟨dropped.length - 1, ?_⟩
  rw [known, List.eq_replicate_of_mem all] at split
  rw [Nat.sub_add_cancel some, split]

theorem Text.filter_flatMap_line (lines : List (List Char)) :
    (lines.flatMap (· ++ ['\n'])).filter (· ≠ '\n') = lines.flatten.filter (· ≠ '\n') := by
  rw [List.filter_flatMap, List.filter_flatten, List.flatMap_def]
  refine congrArg List.flatten (List.map_congr_left fun line _ => ?_)
  rw [List.filter_append]
  simp

namespace Report

open Screen (Block Conveys)
open Text (Narrow Within Wrappable isAscii trimEnd)
open Text.Styled (plain styled)

variable {report : Report}

/-- The parts that only the page in detail has. -/
def extraParts (report : Report) : List Part :=
  if report.ok then if report.op = checkOp then [boundsPart report.data] else []
  else detailParts true report.failure

theorem extraParts_cases (report : Report) :
    (∃ failure, report.ok = false ∧ report.failure = some failure ∧ failure.detail ≠ [] ∧
        report.extraParts = .ok (.text (styled "dim" "  detail:")) :: failure.detail.map entryPart) ∨
      (report.ok = true ∧ report.op = checkOp ∧ report.extraParts = [boundsPart report.data]) ∨
      (((report.ok = true ∧ report.op ≠ checkOp) ∨
        (report.ok = false ∧ ∀ failure, report.failure = some failure → failure.detail = [])) ∧
          report.extraParts = []) := by
  obtain ⟨ok, op, data, warnings, failure⟩ := report
  cases ok with
  | true =>
    by_cases check : op = checkOp
    · exact Or.inr (Or.inl ⟨rfl, check, if_pos check⟩)
    · exact Or.inr (Or.inr ⟨Or.inl ⟨rfl, check⟩, if_neg check⟩)
  | false =>
    cases failure with
    | none => exact Or.inr (Or.inr ⟨Or.inr ⟨rfl, by simp⟩, rfl⟩)
    | some failure =>
      obtain ⟨code, message, detail⟩ := failure
      cases detail with
      | nil => exact Or.inr (Or.inr ⟨Or.inr ⟨rfl, by rintro _ ⟨⟩; rfl⟩, rfl⟩)
      | cons entry more => exact Or.inl ⟨_, rfl, rfl, List.cons_ne_nil _ _, by simp [extraParts, detailParts]⟩

theorem parts_true (report : Report) : report.parts true = report.parts false ++ report.extraParts := by
  have brief : detailParts false report.failure = [] := by
    unfold detailParts
    split <;> rfl
  unfold parts extraParts
  cases report.ok with
  | false => simp [failureParts, brief]
  | true =>
    simp only [if_true, successParts]
    split
    · next parsed =>
      have other : report.op ≠ checkOp := by
        rw [parsed]
        decide
      simp [other]
    · split
      · simp [checkParts]
      · simp

theorem parts_ne_nil (verbose : Bool) (report : Report) : report.parts verbose ≠ [] := by
  unfold parts
  split
  · exact List.cons_ne_nil _ _
  · exact List.cons_ne_nil _ _

theorem exists_line_end_of_printPart {part : Part} {shown : List Char} (printed : printPart part = .ok shown) :
    ∃ before, shown = before ++ ['\n'] := by
  obtain ⟨block, -, made⟩ := Yields.of_bind printed
  exact Screen.exists_line_end (Yields.of_mapError made)

theorem exists_line_end_of_printParts {parts : List Part} {shown : List (List Char)}
    (printed : parts.mapM printPart = .ok shown) (some : parts ≠ []) :
    ∃ before, shown.flatten = before ++ ['\n'] := by
  rcases List.eq_nil_or_concat parts with none | ⟨front, last, rfl⟩
  · exact absurd none some
  · rw [List.concat_eq_append, List.mapM_append] at printed
    obtain ⟨first, -, printed⟩ := Yields.of_bind printed
    obtain ⟨made, final, printed⟩ := Yields.of_bind printed
    cases printed
    obtain ⟨line, more, shown, none, rfl⟩ := Yields.of_mapM_cons final
    cases none
    obtain ⟨before, rfl⟩ := exists_line_end_of_printPart shown
    exact ⟨first.flatten ++ before, by simp⟩

/-- What the page in detail has after the page in short, if it has more parts that show anything. -/
theorem page_of_page_true {text : String} (shown : report.page true = .ok text) :
    ∃ short back ends, report.page false = .ok short ∧ report.extraParts.mapM printPart = .ok back ∧
      (back.flatten = [] → text = short) ∧
      ((∃ c ∈ back.flatten, c ≠ '\n') →
        text.toList = short.toList ++ (List.replicate (ends + 1) '\n' ++ trimEnd (· == '\n') back.flatten)) := by
  unfold page at shown
  obtain ⟨pieces, printed, made⟩ := Yields.of_bind shown
  cases made
  rw [parts_true, List.mapM_append] at printed
  obtain ⟨front, first, printed⟩ := Yields.of_bind printed
  obtain ⟨back, extra, printed⟩ := Yields.of_bind printed
  cases printed
  obtain ⟨before, ended⟩ := exists_line_end_of_printParts first (parts_ne_nil false report)
  obtain ⟨ends, split⟩ := Text.exists_line_ends before
  rw [← ended] at split
  have short : report.page false = .ok (.ofList (trimEnd (· == '\n') front.flatten)) := by
    rw [page, first]
    rfl
  refine ⟨_, back, ends, short, extra, ?_, ?_⟩
  · intro none
    rw [List.flatten_append, none, List.append_nil]
  · rintro ⟨c, member, other⟩
    have some : ¬ ∀ c ∈ back.flatten, (c == '\n') = true := fun all => other (beq_iff_eq.mp (all c member))
    rw [String.toList_ofList, String.toList_ofList, List.flatten_append, Text.trimEnd_append_of_some _ some,
      ← List.append_assoc, ← split]

/-! ### What is shown in detail -/

theorem wrappable_of_ascii {text : String} (ascii : Within (isAscii · = true) text) : Wrappable text := by
  have narrow := Text.narrow_of_within ascii
  rw [Wrappable, Text.printed_of_narrow narrow]
  exact Text.anchored_of_plain fun c member => (narrow c member).2

theorem printPart_heading : printPart (.ok (.text (styled "dim" "  detail:"))) = .ok "  detail:\n".toList := by
  have ascii : Within (isAscii · = true) "  detail:" := .ascii _ (by decide)
  have sound : (styled "dim" "  detail:").Sound Narrow :=
    Text.Styled.sound_styled (readable_of_mem (by decide)) (ascii.mono Text.showable_narrow.ascii)
  have chars := chars_styled "dim" ascii
  refine printPart_of_render ((Screen.render_text_of_narrow sound ?_).trans ?_)
  · rw [chars]
    decide
  · rw [chars]
    rfl

theorem json_of_jsonOf {value : Value} {json : String} (written : jsonOf value = .ok json) :
    json = Json.text Json.compact value := by
  by_cases writable : value.Writable
  · rw [jsonOf_of_writable writable] at written
    exact (Except.ok.inj written).symm
  · obtain ⟨error, stopped⟩ := guarded_of_not_writable writable (fun fault => .unwritten fault.inJson)
      (Json.text Json.compact value)
    rw [jsonOf, stopped] at written
    cases written

theorem exists_mem_of_bounds {data : Value.Fields} {field : List Char}
    (shown : printPart (boundsPart data) = .ok field) :
    ∃ c ∈ field, c ≠ '\n' := by
  obtain ⟨block, made, rendered⟩ := Yields.of_bind shown
  obtain ⟨value, -, made⟩ := Yields.of_bind made
  obtain ⟨json, written, made⟩ := Yields.of_bind made
  obtain rfl := json_of_jsonOf written
  cases made
  have conveys : Conveys ["bounds", ":", Json.text Json.compact value] _ :=
    conveys_field (by decide) (wrappable_of_ascii (Json.writes_compact.write 0 value))
  have columns : 2 ≤ pageWidth := by decide
  obtain ⟨drawn, set, shows⟩ := Screen.render_of_settable columns conveys.settable
  have same : field = drawn := by
    have known : (fieldBlock "bounds" (Json.text Json.compact value)).render pageWidth = .ok field :=
      Yields.of_mapError rendered
    exact Except.ok.inj (known.symm.trans set)
  by_contra blank
  push Not at blank
  have nothing : Text.ink drawn = [] := Text.ink_of_blank fun c member => by
    rw [blank c (same ▸ member)]
    decide
  rw [shows.ink_eq, conveys.seen, List.flatMap_cons] at nothing
  exact absurd (List.append_eq_nil_iff.mp nothing).1 (by decide)

/-- The bounds of a range may be wrapped, but they are all there. -/
theorem bounds_of_range (range : Range) {data : Value.Fields}
    (known : data.get? "range" = some (.record range.toFields))
    {shown : List Char} (printed : printPart (boundsPart data) = .ok shown) :
    shown.filter (· ≠ '\n') = ("  bounds: " ++ Json.text Json.compact (.record range.toFields)).toList := by
  let json := Json.text Json.compact (.record range.toFields)
  have word := Json.unspaced_toFields range
  have ascii : Within (isAscii · = true) json := word.mono fun _ => And.left
  have part : boundsPart data = .ok (fieldBlock "bounds" json) := boundsPart_of_range known
  have key : Within (isAscii · = true) "  bounds: " := .ascii _ (by decide)
  have sound : (keyText "bounds" ++ plain json).Sound Narrow :=
    (sound_keyText Text.showable_narrow (.ascii "bounds" (by decide))).append
      (Text.Styled.sound_plain (ascii.mono Text.showable_narrow.ascii))
  have chars : (keyText "bounds" ++ plain json).chars = "  bounds: ".toList ++ json.toList := by
    rw [Text.Styled.chars_append, chars_plain ascii]
    exact congrArg (· ++ _) (chars_styled "range.key" key)
  have letters : ∀ c ∈ json.toList, Text.isBlank c = false :=
    fun c member => Text.not_blank_of_ascii (word c member).1 (word c member).2
  have narrow := chars ▸ sound.chars
  have columns : 2 ≤ pageWidth := by decide
  have short := Screen.length_le_of_mem_divide columns narrow letters (by decide)
  rw [← chars] at short
  have rendered := printPart_of_render (Screen.render_of_divide columns sound short)
  rw [part] at printed
  have same := Except.ok.inj (printed.symm.trans rendered)
  have whole : (Screen.divide true pageWidth (keyText "bounds" ++ plain json).chars).flatten = _ :=
    (Screen.divide_layout columns (Text.anchored_of_plain fun c member => (sound.chars c member).2)).whole
  rw [same, Text.filter_flatMap_line, whole, chars, ← String.toList_append, List.filter_eq_self]
  intro c member
  have newline : '\n' ∉ ("  bounds: " ++ json).toList :=
    Text.not_mem_of_narrow (Text.narrow_of_within (key.append ascii)) (by decide)
  exact decide_eq_true fun same => newline (same ▸ member)

theorem tidy_range (range : Range) : Value.Every Value.Tidy (.record range.toFields) :=
  Value.tidy_record (show ["start", "end", "invert", "spec"].Nodup by decide) (tidy_toFields range)

theorem range_of_ofCheck {spec : String} {values : List Value} (made : (ofCheck spec values).outcome = .ok report)
    (good : report.ok = true) :
    ∃ range, Spec.parse spec = .ok range ∧ report.op = checkOp ∧
      report.data.get? "range" = some (.record range.toFields) := by
  cases read : Spec.parse spec with
  | error error =>
    rw [ofCheck_of_error read] at made
    cases made
    cases good
  | ok range =>
    have numbers : ∀ v ∈ values, v.Checkable := by
      by_contra mixed
      obtain ⟨before, offending, after, rfl, numbers, other⟩ := exists_first_offending mixed
      rw [ofCheck_of_not_checkable read numbers other] at made
      cases made
    rw [ofCheck_of_checkable read numbers] at made
    cases made
    exact ⟨range, rfl, rfl, rfl⟩

/-! ### Results -/

/-- What follows the page in short on the page in detail: the details of a failure that has some, the bounds
of a check, or nothing. Line ends come between. -/
inductive Appended (report : Report) : List Char → Prop
  | detail {failure : Failure} {entries : List (List Char)} (bad : report.ok = false)
      (known : report.failure = some failure) (some : failure.detail ≠ [])
      (shown : (failure.detail.map entryPart).mapM printPart = .ok entries) (ends : Nat) :
      Appended report
        (List.replicate (ends + 1) '\n' ++ trimEnd (· == '\n') ("  detail:\n".toList ++ entries.flatten))
  | bounds {field : List Char} (good : report.ok = true) (check : report.op = checkOp)
      (shown : printPart (boundsPart report.data) = .ok field) (ends : Nat) :
      Appended report (List.replicate (ends + 1) '\n' ++ trimEnd (· == '\n') field)
  | nothing (other : (report.ok = true ∧ report.op ≠ checkOp) ∨
      (report.ok = false ∧ ∀ failure, report.failure = some failure → failure.detail = [])) : Appended report []

theorem exists_appended {text : String} (shown : report.page true = .ok text) :
    ∃ short rest, report.page false = .ok short ∧ text.toList = short.toList ++ rest ∧ Appended report rest := by
  obtain ⟨short, back, ends, brief, extra, same, more⟩ := page_of_page_true shown
  rcases extraParts_cases report with ⟨failure, bad, known, some, parts⟩ | ⟨good, check, parts⟩ | ⟨other, parts⟩
  · rw [parts] at extra
    obtain ⟨heading, entries, first, drawn, rfl⟩ := Yields.of_mapM_cons extra
    rw [printPart_heading] at first
    cases first
    rw [List.flatten_cons] at more
    exact ⟨short, _, brief, more ⟨'d', by simp, by decide⟩, .detail bad known some drawn ends⟩
  · rw [parts] at extra
    obtain ⟨field, none, drawn, nothing, rfl⟩ := Yields.of_mapM_cons extra
    obtain rfl : none = [] := (Except.ok.inj nothing).symm
    rw [List.flatten_singleton] at more
    exact ⟨short, _, brief, more (exists_mem_of_bounds drawn), .bounds good check drawn ends⟩
  · rw [parts] at extra
    cases extra
    exact ⟨short, [], brief, by rw [same rfl, List.append_nil], .nothing other⟩

/-- If a report has a page in detail, it has a page in short, with which the page in detail begins. There is
more on it exactly for a failure with details and for a check: line ends, and then the details or the bounds.
The bounds of a check of a range, without the line ends where they are wrapped, are JSON of the range. -/
theorem page_in_detail {report : Report} {text : String} (shown : report.page true = .ok text) :
    ∃ short rest, report.page false = .ok short ∧ text.toList = short.toList ++ rest ∧ Appended report rest ∧
      ∀ spec values, (ofCheck spec values).outcome = .ok report → report.ok = true →
        ∃ range json, Spec.parse spec = .ok range ∧
          rest.filter (· ≠ '\n') = ("  bounds: " ++ json).toList ∧
          Json.read? json = some (.record [("start", range.lower.asData), ("end", range.upper.asData),
            ("invert", .bool range.invert), ("spec", .text range.spec)]) := by
  obtain ⟨short, rest, brief, split, appended⟩ := exists_appended shown
  refine ⟨short, rest, brief, split, appended, fun spec values made good => ?_⟩
  obtain ⟨range, read, check, known⟩ := range_of_ofCheck made good
  refine ⟨range, _, read, ?_, Json.read?_compact_of_tidy (tidy_range range)⟩
  cases appended with
  | detail bad =>
    rw [good] at bad
    cases bad
  | bounds _ _ drawn ends =>
    have ended : (List.replicate (ends + 1) '\n').filter (· ≠ '\n') = [] := by simp
    rw [List.filter_append, ended, List.nil_append, Text.filter_trimEnd (by simp)]
    exact bounds_of_range range known drawn
  | nothing other =>
    rcases other with ⟨-, other⟩ | ⟨bad, -⟩
    · exact absurd check other
    · rw [good] at bad
      cases bad

theorem page_in_detail_wrapped :
    ∃ (report : Report) (text short : String) (rest : List Char) (range : Range) (json : String),
      (ofCheck "-1.2345678901234567e-300:1.2345678901234567e-300" [.int 1]).outcome = .ok report ∧
        report.page true = .ok text ∧ report.page false = .ok short ∧ text.toList = short.toList ++ rest ∧
        rest.filter (· ≠ '\n') = ("  bounds: " ++ json).toList ∧
        Json.read? json = some (.record range.toFields) := by
  have parses : (Spec.parse "-1.2345678901234567e-300:1.2345678901234567e-300").isOk = true := by decide +kernel
  cases read : Spec.parse "-1.2345678901234567e-300:1.2345678901234567e-300" with
  | error error =>
    rw [read] at parses
    cases parses
  | ok range =>
    have numbers : ∀ v ∈ [Value.int 1], v.Checkable := by decide
    have made := congrArg Inquiry.outcome (ofCheck_of_checkable read numbers)
    have written : ∀ item ∈ [Value.int 1].map (itemOf range), item.value.Writable := by
      intro item member
      rw [List.mem_singleton.mp member]
      exact Value.writable_int_iff.mpr (Nat.lt_of_lt_of_le (by decide) pow_ten_le)
    obtain ⟨text, shown, -⟩ := @format_check range _ (numbers_itemOf range numbers) (warningsFor [.int 1])
      ⟨false, false, true⟩ (.inr (.inr written))
    obtain ⟨short, rest, brief, split, -, bounds⟩ := page_in_detail shown
    obtain ⟨same, json, -, all, decodes⟩ := bounds _ _ made rfl
    exact ⟨_, text, short, rest, same, json, made, shown, brief, split, all, decodes⟩

end Report

end AlertRange

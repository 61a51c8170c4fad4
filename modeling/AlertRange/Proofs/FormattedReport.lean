import AlertRange.Proofs.CheckReport
import AlertRange.Proofs.SpecDiagnosis
import AlertRange.Proofs.WrittenText
import AlertRange.Report.Format

namespace AlertRange

open Text (Within isAscii isPrintable isPrintable_of_isAscii Showable showable_isPrintable showable_isJoiner)
open Text.Styled (plain styled sound_plain sound_styled)

/-! ### What is wrong with a text -/

namespace Spec

/-- The faults of a text: a part of it that is no number, or the order of its bounds. -/
inductive Refusal (text : List Char) : SpecFault → Prop
  | bound (side : Side) {token : List Char} (part : ∀ c ∈ token, c ∈ text) :
      Refusal text (.bound side (.text (.ofList token)) (.text (notNumber (.ofList token))))
  | order (lower upper : Binary64) : Refusal text (.order (.float lower) (.float upper))

variable {cs text : List Char} {fault : SpecFault}

theorem refusal_of_diagnosis {message : String} {cause : Option String}
    (diagnosis : Diagnosis cs fault message cause) (part : ∀ c ∈ cs, c ∈ text) : Refusal text fault := by
  cases diagnosis with
  | lower parts wrong =>
    cases parts with
    | around first => exact .bound .lower fun c member => part c (List.mem_append_left _ member)
  | upper parts right wrong =>
    cases parts with
    | whole plain => exact .bound .upper part
    | around first => exact .bound .upper fun c member => part c (by simp [member])
  | order body below => exact .order _ _

theorem mem_of_mem_trimmed {text : String} {c : Char} (member : c ∈ trimmed text) : c ∈ text.toList :=
  (List.dropWhile_suffix _).subset ((Text.trimEnd_isPrefix _ _).subset member)

theorem refusal_of_parse {text : String} {error : SpecError} (refused : parse text = .error error) :
    Refusal text.toList error.fault := by
  obtain ⟨body, unmarked, diagnosis⟩ := (readTrimmed_eq_error_iff error.spec).mp (parse_eq_error_iff.mp refused).1
  refine refusal_of_diagnosis diagnosis fun c member => mem_of_mem_trimmed ?_
  generalize trimmed text = core at unmarked
  cases unmarked with
  | inverted => exact List.mem_cons_of_mem _ member
  | plain unmarked => exact member

theorem printable_notNumber (token : String) : Within (isPrintable · = true) (notNumber token) :=
  (showable_isPrintable.literal "could not convert string to float: " (by decide)).append
    (Text.printable_quoted token)

theorem Refusal.printable_message {spec : String} (refusal : Refusal text fault) :
    Within (isPrintable · = true) (SpecError.message ⟨spec, fault⟩) := by
  have literal := showable_isPrintable.literal
  cases refusal with
  | bound side part =>
    have sided : Within (isPrintable · = true) ("failed to parse " ++ side.name ++ " limit: ") := by
      cases side with
      | lower => exact literal "failed to parse lower limit: " (by decide)
      | upper => exact literal "failed to parse upper limit: " (by decide)
    exact sided.append (printable_notNumber _)
  | order lower upper =>
    have number (x : Binary64) := x.ascii_text.mono showable_isPrintable.ascii
    have opened := literal "Invalid range definition. min <= max violated (" (by decide)
    exact (((opened.append (number lower)).append (literal " > " (by decide))).append (number upper)).append
      (literal ")" (by decide))

end Spec

/-! ### What reports hold -/

namespace Binary64

theorem display_asData (x : Binary64) : x.asData.display = x.text := by
  cases x with
  | infinite neg => cases neg <;> rfl
  | _ => rfl

theorem writable_asData (x : Binary64) : x.asData.Writable := by
  cases x <;> rfl

theorem ascii_asData (x : Binary64) : Within (isAscii · = true) x.asData.display := by
  rw [display_asData]
  exact x.ascii_text

end Binary64

namespace Range

variable (range : Range)

theorem ascii_lowerText : Within (isAscii · = true) range.lowerText := by
  unfold lowerText
  split
  · exact Within.ascii "~" (by decide)
  · exact Binary64.ascii_boundText range.lower_ne_nan

theorem ascii_upperText : Within (isAscii · = true) range.upperText := by
  unfold upperText
  split
  · exact Within.ascii "" (by decide)
  · exact Binary64.ascii_boundText range.upper_ne_nan

theorem ascii_spec : Within (isAscii · = true) range.spec := by
  have marked : Within (isAscii · = true) (if range.invert then "@" else "") := by
    split <;> exact Within.ascii _ (by decide)
  have lower : Within (isAscii · = true) (if range.lower.same .zero then "" else range.lowerText ++ ":") := by
    split
    · exact Within.ascii "" (by decide)
    · exact range.ascii_lowerText.append (Within.ascii ":" (by decide))
  exact (marked.append lower).append range.ascii_upperText

theorem ascii_violation : Within (isAscii · = true) range.violation := by
  have side : Within (isAscii · = true) (if range.invert then "inside" else "outside") := by
    split <;> exact Within.ascii _ (by decide)
  have opened := (side.append (Within.ascii " range " (by decide))).append range.ascii_lowerText
  exact (opened.append (Within.ascii ":" (by decide))).append range.ascii_upperText

theorem writable_toFields : (Value.record range.toFields).Writable := by
  have lower : range.lower.asData.faultWithin? (nestingLimit - 1) = none := by cases range.lower <;> rfl
  have upper : range.upper.asData.faultWithin? (nestingLimit - 1) = none := by cases range.upper <;> rfl
  rw [Value.Writable, Value.fault?, Value.faultWithin?, if_neg nestingLimit_ne_zero]
  simp [Range.toFields, Value.fieldFault?, Value.faultWithin?, lower, upper]

end Range

theorem Value.Checkable.writable_iff {value : Value} (number : value.Checkable) :
    value.Writable ↔ ∀ n, value = .int n → n.natAbs < 10 ^ digitLimit := by
  cases number with
  | int n => simp [Value.writable_int_iff]
  | float x => exact iff_of_true (Value.writable_float x) nofun

namespace Report

theorem shownText_of_long {n : Int} (long : 10 ^ digitLimit ≤ n.natAbs) :
    shownText (.int n) = .error (.unwritten .tooManyDigits) := by
  rw [shownText, Value.shown?, Value.guarded, Value.fault?_of_long long]
  rfl

section Numbers

variable {value : Value} (number : value.Checkable)

include number

theorem display_valueData : (valueData value).display = value.display := by
  cases number with
  | int n => rfl
  | float x =>
    cases x with
    | nan => rfl
    | infinite neg => cases neg <;> rfl
    | finite neg units fits => rfl

theorem ascii_display : Within (isAscii · = true) value.display := by
  cases number with
  | int n => exact ascii_intText n
  | float x => exact x.ascii_text

theorem not_mem_display {c : Char} (foreign : Coercion.fieldDialect.Foreign c) (other : c ∉ "nan".toList) :
    c ∉ value.display.toList := by
  cases number with
  | int n =>
    obtain ⟨d, token, -⟩ := Numeral.Dialect.spells_intDigits Coercion.fieldDialect_regular n
    change c ∉ (String.ofList (intDigits n)).toList
    rw [String.toList_ofList]
    exact foreign.not_mem token
  | float x => exact x.not_mem_text foreign other

theorem content_display : Markup.content value.display = .ok (plain value.display) :=
  Markup.content_of_plain (not_mem_display number (by decide) (by decide))
    (not_mem_display number (by decide) (by decide))

theorem writable_valueData_iff : (valueData value).Writable ↔ value.Writable := by
  cases number with
  | int n => rfl
  | float x => exact iff_of_true (by cases x <;> rfl) rfl

theorem shownText_valueData :
    shownText (valueData value) = .ok value.display ∨
      ∃ n, value = .int n ∧ 10 ^ digitLimit ≤ n.natAbs ∧
        shownText (valueData value) = .error (.unwritten .tooManyDigits) := by
  by_cases writable : value.Writable
  · left
    rw [shownText_of_writable ((writable_valueData_iff number).mpr writable), display_valueData number]
  · right
    cases number with
    | float x => exact absurd (Value.writable_float x) writable
    | int n =>
      have long := Nat.le_of_not_lt (mt Value.writable_int_iff.mpr writable)
      exact ⟨n, rfl, long, shownText_of_long long⟩

theorem depth_valueData : (valueData value).depth = 1 := by
  cases number with
  | int n => rfl
  | float x => cases x <;> rfl

end Numbers

theorem ascii_verdict (alert : Bool) : Within (isAscii · = true) (verdict alert) := by
  cases alert <;> exact Within.ascii _ (by decide)

def rowOfItem (item : Item) : Screen.Row :=
  ⟨plain item.value.display, verdict item.alert⟩

/-! ### Pages -/

section Page

variable {keep : Char → Prop}

def pageStyles : List String :=
  ["dim", "range.alert", "range.clear", "range.error", "range.key", "range.ok", "range.op", "range.spec"]

theorem readable_of_mem {style : String} (known : style ∈ pageStyles) : Text.Styled.Readable style := by
  have read : ∀ style ∈ pageStyles, Screen.checkStyle ⟨0, 0, style⟩ = .ok () := by decide +kernel
  exact fun _ _ => read style known

theorem page_yields (showable : Showable keep) {verbose : Bool} {report : Report}
    (sound : ∀ part ∈ report.parts verbose, Yields (Screen.Block.Sound keep) part) :
    Yields (Within fun c => keep c ∨ c = '\n') (report.page verbose) := by
  have printed : ∀ part ∈ report.parts verbose, Yields (fun shown => ∀ c ∈ shown, keep c ∨ c = '\n')
    (printPart part) :=
    fun part member => (sound part member).bind fun block made => (made.render showable pageWidth).mapError
  apply (Yields.mapM printed).bind
  intro shown kept
  apply Yields.ok
  intro c member
  rw [String.toList_ofList] at member
  obtain ⟨piece, inside, letter⟩ := List.mem_flatten.mp ((Text.trimEnd_isPrefix _ _).subset member)
  exact kept piece inside c letter

/-- There is no page without all of its parts. -/
theorem page_of_unprinted {verbose : Bool} {report : Report} {part : Part} (member : part ∈ report.parts verbose)
    (unprinted : (printPart part).isOk = false) : (report.page verbose).isOk = false := by
  unfold page
  cases printed : (report.parts verbose).mapM printPart with
  | error formError => rfl
  | ok shown =>
    obtain ⟨piece, made⟩ := Yields.of_mapM printed part member
    rw [made] at unprinted
    cases unprinted

variable (showable : Showable keep)

include showable

theorem within_dash : Within keep " — " := by
  intro c member
  have mark : c = ' ' ∨ c = '—' ∨ c = ' ' := by simpa using member
  rcases mark with rfl | rfl | rfl
  · exact showable.blank
  · exact showable.dash
  · exact showable.blank

theorem sound_opText {op : String} (ascii : Within (isAscii · = true) op) :
    (styled "range.op" ("  " ++ op)).Sound keep :=
  sound_styled (readable_of_mem (by decide))
    ((showable.literal "  " (by decide)).append (ascii.mono showable.ascii))

theorem sound_keyText {name : String} (ascii : Within (isAscii · = true) name) : (keyText name).Sound keep := by
  have framed := ((Within.ascii "  " (by decide)).append ascii).append (Within.ascii ": " (by decide))
  exact sound_styled (readable_of_mem (by decide)) (framed.mono showable.ascii)

theorem sound_fieldBlock {name text : String} (ascii : Within (isAscii · = true) name)
    (shown : Within (isAscii · = true) text) : (fieldBlock name text).Sound keep :=
  .text ((sound_keyText showable ascii).append (sound_plain (shown.mono showable.ascii)))

theorem sound_statusBlock {op : String} (ascii : Within (isAscii · = true) op) : (statusBlock op).Sound keep := by
  have status : (styled "range.ok" "OK").Sound keep :=
    sound_styled (readable_of_mem (by decide)) (showable.literal "OK" (by decide))
  exact .text ((status.append (sound_plain (showable.literal " " (by decide)))).append
    (sound_opText showable ascii))

omit showable in
theorem fieldPart_of_writable {data : Value.Fields} {name : String} {value : Value}
    (known : data.get? name = some value)
    (writable : value.Writable) : fieldPart data name = .ok (fieldBlock name value.display) := by
  simp only [fieldPart, field, known, shownText_of_writable writable, bind, Except.bind]

theorem parseParts_yield (range : Range) :
    ∀ part ∈ parseParts (rangeFields range), Yields (Screen.Block.Sound keep) part := by
  have field {name : String} {value : Value} (known : (rangeFields range).get? name = some value)
      (writable : value.Writable) (ascii : Within (isAscii · = true) name)
      (shown : Within (isAscii · = true) value.display) :
      Yields (Screen.Block.Sound keep) (fieldPart (rangeFields range) name) := by
    rw [fieldPart_of_writable known writable]
    exact .ok (sound_fieldBlock showable ascii shown)
  have spec : Within (isAscii · = true) (if range.spec = "" then "\"\"" else range.spec) := by
    split
    · exact Within.ascii "\"\"" (by decide)
    · exact range.ascii_spec
  have inverted : Within (isAscii · = true) (Value.bool range.invert).display := by
    cases range.invert <;> exact Within.ascii _ (by decide)
  simp only [parseParts, List.forall_mem_cons, List.map_cons, List.map_nil]
  refine ⟨?_, ?_, ?_, ?_, ?_, by simp⟩
  · exact .ok (.text ((sound_keyText showable (Within.ascii "spec" (by decide))).append
      (sound_styled (readable_of_mem (by decide)) (spec.mono showable.ascii))))
  · exact field rfl range.lower.writable_asData (Within.ascii "start" (by decide)) range.lower.ascii_asData
  · exact field rfl range.upper.writable_asData (Within.ascii "end" (by decide)) range.upper.ascii_asData
  · exact field rfl (Value.writable_bool _) (Within.ascii "invert" (by decide)) inverted
  · exact field rfl (Value.writable_text _) (Within.ascii "violation" (by decide)) range.ascii_violation

omit showable in
theorem judgedOf_asData (item : Item) :
    judgedOf item.asData = (shownText (valueData item.value)).map fun text => ⟨text, item.alert⟩ := by
  change (shownText (valueData item.value) >>= fun text => (.ok ⟨text, item.alert⟩ : Except FormError Judged)) = _
  cases shownText (valueData item.value) <;> rfl

omit showable in
theorem tablePart_of_numbers {range : Range} {items : List Item} (numbers : ∀ item ∈ items, item.value.Checkable)
    (writable : ∀ item ∈ items, item.value.Writable) :
    tablePart (checkFields range items) = .ok (.table (items.map rowOfItem)) := by
  have judged : (items.map Item.asData).mapM judgedOf =
      .ok (items.map fun item => (⟨item.value.display, item.alert⟩ : Judged)) := by
    rw [List.mapM_map]
    apply mapM_of_ok
    intro item member
    have shown := shownText_of_writable ((writable_valueData_iff (numbers item member)).mpr (writable item member))
    rw [Function.comp_apply, judgedOf_asData, shown, display_valueData (numbers item member)]
    rfl
  have rows : (items.map fun item => (⟨item.value.display, item.alert⟩ : Judged)).mapM rowOf =
      .ok (items.map rowOfItem) := by
    rw [List.mapM_map]
    apply mapM_of_ok
    intro item member
    simp only [Function.comp_apply, rowOf, content_display (numbers item member)]
    rfl
  change ((items.map Item.asData).mapM judgedOf >>= fun judged =>
    judged.mapM rowOf >>= fun rows => .ok (Screen.Block.table rows)) = _
  rw [judged]
  exact congrArg (fun found => found >>= fun rows => (.ok (Screen.Block.table rows) : Part)) rows

omit showable in
theorem tablePart_of_long {range : Range} {items : List Item} (numbers : ∀ item ∈ items, item.value.Checkable)
    {item : Item} (member : item ∈ items) {n : Int} (whole : item.value = .int n)
    (long : 10 ^ digitLimit ≤ n.natAbs) :
    tablePart (checkFields range items) = .error (.unwritten .tooManyDigits) := by
  have each : ∀ data ∈ items.map Item.asData,
      (∃ judged, judgedOf data = .ok judged) ∨ judgedOf data = .error (.unwritten .tooManyDigits) := by
    intro data inside
    obtain ⟨other, found, rfl⟩ := List.mem_map.mp inside
    rw [judgedOf_asData]
    obtain shown | ⟨-, -, -, stopped⟩ := shownText_valueData (numbers other found)
    · exact Or.inl ⟨_, by rw [shown]; rfl⟩
    · exact Or.inr (by rw [stopped]; rfl)
  have stopped : judgedOf item.asData = .error (.unwritten .tooManyDigits) := by
    have unwritten : shownText (valueData (.int n)) = .error (.unwritten .tooManyDigits) := shownText_of_long long
    rw [judgedOf_asData, whole, unwritten]
    rfl
  have judged := Yields.mapM_of_stop each (List.mem_map_of_mem member) stopped
  change ((items.map Item.asData).mapM judgedOf >>= fun judged =>
    judged.mapM rowOf >>= fun rows => .ok (Screen.Block.table rows)) = _
  rw [judged]
  rfl

omit showable in
theorem countPart_checkFields (range : Range) (items : List Item) :
    countPart (checkFields range items) =
      .ok (fieldBlock "alerts" (intText (alertCount items) ++ "/" ++ intText items.length)) := by
  have count : itemCount (checkFields range items) = items.length := List.length_map _
  have few : alertCount items ≤ items.length := List.countP_le_length
  have alerts : countText (checkFields range items) (.int (alertCount items)) = .ok (intText (alertCount items)) :=
    if_pos (count ▸ few)
  have whole : countText (checkFields range items) (.int items.length) = .ok (intText items.length) :=
    if_pos (count ▸ Nat.le_refl _)
  change (countText (checkFields range items) (.int (alertCount items)) >>= fun alerts =>
    countText (checkFields range items) (.int items.length) >>= fun count =>
      (.ok (fieldBlock "alerts" (alerts ++ "/" ++ count)) : Part)) = _
  rw [alerts, whole]
  rfl

omit showable in
theorem boundsPart_of_range {range : Range} {data : Value.Fields}
    (known : data.get? "range" = some (.record range.toFields)) :
    boundsPart data = .ok (fieldBlock "bounds" (Json.text Json.compact (.record range.toFields))) := by
  simp only [boundsPart, field, known, jsonOf_of_writable range.writable_toFields, bind, Except.bind]

theorem tablePart_yields {range : Range} {items : List Item} (numbers : ∀ item ∈ items, item.value.Checkable)
    (writable : ∀ item ∈ items, item.value.Writable) :
    Yields (Screen.Block.Sound keep) (tablePart (checkFields range items)) := by
  refine ⟨_, tablePart_of_numbers numbers writable, .table ?_⟩
  intro row member
  obtain ⟨item, inside, rfl⟩ := List.mem_map.mp member
  exact ⟨sound_plain ((ascii_display (numbers item inside)).mono showable.ascii),
    (ascii_verdict item.alert).mono showable.ascii⟩

/-- What stands around the table of a check is there whatever the numbers. -/
theorem otherParts_yield (verbose : Bool) (range : Range) (items : List Item) :
    ∀ part ∈ checkParts verbose (checkFields range items),
      part = tablePart (checkFields range items) ∨ Yields (Screen.Block.Sound keep) part := by
  have counts : Within (isAscii · = true) (intText (alertCount items) ++ "/" ++ intText items.length) :=
    ((ascii_intText _).append (Within.ascii "/" (by decide))).append (ascii_intText _)
  have bounds : Within (isAscii · = true) (Json.text Json.compact (.record range.toFields)) :=
    Json.writes_compact.write 0 _
  intro part member
  rcases List.mem_append.mp member with always | detailed
  · simp only [List.mem_cons, List.not_mem_nil, or_false] at always
    rcases always with rfl | rfl | rfl
    · exact Or.inr (.ok (sound_fieldBlock showable (Within.ascii "range" (by decide)) range.ascii_violation))
    · exact Or.inl rfl
    · rw [countPart_checkFields]
      exact Or.inr (.ok (sound_fieldBlock showable (Within.ascii "alerts" (by decide)) counts))
  · cases verbose with
    | false => cases detailed
    | true =>
      rw [List.mem_singleton.mp detailed, boundsPart_of_range rfl]
      exact Or.inr (.ok (sound_fieldBlock showable (Within.ascii "bounds" (by decide)) bounds))

theorem checkParts_yield (verbose : Bool) {range : Range} {items : List Item}
    (numbers : ∀ item ∈ items, item.value.Checkable) (writable : ∀ item ∈ items, item.value.Writable) :
    ∀ part ∈ checkParts verbose (checkFields range items), Yields (Screen.Block.Sound keep) part := by
  intro part member
  obtain rfl | shown := otherParts_yield showable verbose range items part member
  · exact tablePart_yields showable numbers writable
  · exact shown

variable {spec : String} {error : SpecError} (refused : Spec.parse spec = .error error)

include refused

omit showable in
theorem detail_cases : ∀ pair ∈ (failureOf error).detail, ∃ name shown, pair = (name, .text shown) ∧
    Within (isAscii · = true) name ∧ Within (fun c => c ∈ spec.toList ∨ isPrintable c = true) shown := by
  have refusal := Spec.refusal_of_parse refused
  have whole := (Spec.parse_eq_error_iff.mp refused).2
  obtain ⟨core, fault⟩ := error
  change core = _ at whole
  have inText : ∀ c ∈ core.toList, c ∈ spec.toList := by
    intro c member
    rw [whole, String.toList_ofList] at member
    exact Spec.mem_of_mem_trimmed member
  have first : ∃ name shown, ("spec", Value.text core) = (name, .text shown) ∧ Within (isAscii · = true) name ∧
      Within (fun c => c ∈ spec.toList ∨ isPrintable c = true) shown :=
    ⟨"spec", core, rfl, Within.ascii "spec" (by decide), fun c member => Or.inl (inText c member)⟩
  cases refusal with
  | bound side part =>
    simp only [failureOf, List.forall_mem_cons]
    refine ⟨first, ?_, ?_, by simp⟩
    · refine ⟨"token", _, rfl, Within.ascii "token" (by decide), fun c member => Or.inl (part c ?_)⟩
      rwa [String.toList_ofList] at member
    · exact ⟨"reason", _, rfl, Within.ascii "reason" (by decide),
        fun c member => Or.inr (Spec.printable_notNumber _ c member)⟩
  | order lower upper =>
    simp only [failureOf, List.forall_mem_cons]
    exact ⟨first, by simp⟩

theorem sound_failureBlock (wide : ∀ c, isPrintable c = true → keep c) {op : String}
    (ascii : Within (isAscii · = true) op) : (failed op (failureOf error)).failureBlock.Sound keep := by
  have status : (styled "range.error" "ERROR").Sound keep :=
    sound_styled (readable_of_mem (by decide)) (showable.literal "ERROR" (by decide))
  have message : Within keep (failureOf error).message :=
    (Spec.refusal_of_parse refused).printable_message.mono wide
  have told := (within_dash showable).append message
  exact .text ((status.append (sound_opText showable ascii)).append (sound_plain told))

/-- A page shows a failure. Only with details need the text that could not be read be fit to be shown. -/
theorem page_of_refused (wide : ∀ c, isPrintable c = true → keep c) {verbose : Bool}
    (shown : verbose = true → Within keep spec) {op : String} (ascii : Within (isAscii · = true) op) :
    Yields (Within fun c => keep c ∨ c = '\n') ((failed op (failureOf error)).page verbose) := by
  apply page_yields showable
  intro part member
  rcases List.mem_cons.mp member with rfl | detailed
  · exact .ok (sound_failureBlock showable refused wide ascii)
  · cases verbose with
    | false => cases detailed
    | true =>
      rcases List.mem_cons.mp detailed with rfl | line
      · exact .ok (.text (sound_styled (readable_of_mem (by decide))
          (showable.literal "  detail:" (by decide))))
      · obtain ⟨pair, listed, rfl⟩ := List.mem_map.mp line
        obtain ⟨name, text, rfl, named, held⟩ := detail_cases refused pair listed
        have framed := ((Within.ascii "    " (by decide)).append named).append (Within.ascii ": " (by decide))
        have kept : Within keep text := held.mono fun c held => held.elim (shown rfl c) (wide c)
        exact .ok (.text (sound_plain ((framed.mono showable.ascii).append kept)))

omit showable refused

end Page

/-! ### JSON -/

theorem depth_asData (x : Binary64) : x.asData.depth = 1 := by
  cases x <;> rfl

theorem isTooDeep_of_shallow {fields : Value.Fields} (shallow : ∀ pair ∈ fields, pair.2.depth ≤ 3) :
    isTooDeep fields = false := by
  rw [isTooDeep, List.any_eq_false]
  intro pair member
  have limit := shallow pair member
  rw [decide_eq_true_eq, depthLimit]
  omega

theorem shallow_rangeFields (range : Range) : ∀ pair ∈ rangeFields range, pair.2.depth ≤ 3 := by
  simp [rangeFields, Range.toFields, depth_asData, Value.depth]

theorem shallow_checkFields {range : Range} {items : List Item} (numbers : ∀ item ∈ items, item.value.Checkable) :
    ∀ pair ∈ checkFields range items, pair.2.depth ≤ 3 := by
  have each : Value.itemDepth (items.map Item.asData) ≤ 2 := by
    induction items with
    | nil => exact Nat.zero_le 2
    | cons item rest ih =>
      have number := numbers item List.mem_cons_self
      have later := ih fun other member => numbers other (List.mem_cons_of_mem item member)
      simp [Value.itemDepth, Item.asData, depth_valueData number, Value.depth, Value.fieldDepth, later]
  simp [checkFields, Range.toFields, depth_asData, Value.depth, Value.fieldDepth]
  omega

theorem jsonText_yields {report : Report} (shallow : ∀ pair ∈ report.data, pair.2.depth ≤ 3)
    (shallow' : ∀ failure, report.failure = some failure → ∀ pair ∈ failure.detail, pair.2.depth ≤ 3) :
    Yields (Within (· ≠ '\x1b')) report.jsonText := by
  have detail : report.failure.any (isTooDeep ·.detail) = false := by
    cases failed : report.failure with
    | none => rfl
    | some failure => exact isTooDeep_of_shallow (shallow' failure failed)
  rw [jsonText, isTooDeep_of_shallow shallow, detail]
  exact .ok (Json.writes_indented.write 0 report.asData)

/-! ### Words -/

theorem verdictsOf_items (items : List Item) :
    verdictsOf (items.map Item.asData) = .ok (items.map fun item => verdict item.alert) := by
  induction items with
  | nil => rfl
  | cons item rest ih =>
    rw [List.map_cons, verdictsOf, ih]
    rfl

theorem not_escape_of_isPrintable {c : Char} (printable : isPrintable c = true) : c ≠ '\x1b' := by
  rintro rfl
  have hidden : isPrintable '\x1b' = false := by decide +kernel
  rw [hidden] at printable
  cases printable

theorem quietSuccess_yields (range : Range) (items : List Item) (warnings : List String) :
    Yields (Within (· ≠ '\x1b')) (success checkOp (checkFields range items) warnings).quietSuccess := by
  refine ⟨"\n".intercalate (items.map fun item => verdict item.alert), ?_, ?_⟩
  · change (verdictsOf (items.map Item.asData)).map ("\n".intercalate ·) = _
    rw [verdictsOf_items]
    rfl
  · apply Within.intercalate
    · intro c member
      rw [List.mem_singleton.mp member]
      decide
    · intro word member
      obtain ⟨item, -, rfl⟩ := List.mem_map.mp member
      exact (ascii_verdict item.alert).mono fun _ => Json.not_escape_of_isAscii

/-! ### Forms -/

theorem unescaped_of_page {keep : Char → Prop} (plain : ∀ c, keep c → c ≠ '\x1b') {page : Except FormError String}
    (shown : Yields (Within fun c => keep c ∨ c = '\n') page) : Yields (Within (· ≠ '\x1b')) page := by
  refine shown.mono fun text within => within.mono fun c held => ?_
  rcases held with kept | rfl
  · exact plain c kept
  · decide

theorem page_of_printable {verbose : Bool} {report : Report}
    (sound : ∀ part ∈ report.parts verbose, Yields (Screen.Block.Sound (isPrintable · = true)) part) :
    Yields (Within (· ≠ '\x1b')) (report.page verbose) := by
  exact unescaped_of_page (fun _ => not_escape_of_isPrintable) (page_yields showable_isPrintable sound)

theorem format_range (range : Range) (mode : Mode) :
    Yields (Within (· ≠ '\x1b')) ((success parseOp (rangeFields range) []).format mode) := by
  unfold format
  split
  · exact jsonText_yields (shallow_rangeFields range) nofun
  · split
    · exact .ok ((Within.ascii "OK: parse_range" (by decide)).mono fun _ => Json.not_escape_of_isAscii)
    · apply page_of_printable
      intro part member
      rcases List.mem_cons.mp member with rfl | rest
      · exact .ok (sound_statusBlock showable_isPrintable (Within.ascii parseOp (by decide)))
      · exact parseParts_yield showable_isPrintable range part rest

theorem format_check (range : Range) {items : List Item} (numbers : ∀ item ∈ items, item.value.Checkable)
    (warnings : List String) {mode : Mode}
    (writable : mode.json = true ∨ mode.quiet = true ∨ ∀ item ∈ items, item.value.Writable) :
    Yields (Within (· ≠ '\x1b')) ((success checkOp (checkFields range items) warnings).format mode) := by
  unfold format
  split
  · exact jsonText_yields (shallow_checkFields numbers) nofun
  · next noJson =>
    split
    · exact quietSuccess_yields range items warnings
    · next noQuiet =>
      have shown := (writable.resolve_left noJson).resolve_left noQuiet
      apply page_of_printable
      intro part member
      rcases List.mem_cons.mp member with rfl | rest
      · exact .ok (sound_statusBlock showable_isPrintable (Within.ascii checkOp (by decide)))
      · exact checkParts_yield showable_isPrintable mode.verbose numbers shown part rest

/-- There is no page for a number with too many digits. -/
theorem page_of_long (range : Range) {items : List Item} (numbers : ∀ item ∈ items, item.value.Checkable)
    (warnings : List String) {item : Item} (member : item ∈ items) {n : Int} (whole : item.value = .int n)
    (long : 10 ^ digitLimit ≤ n.natAbs) (verbose : Bool) :
    (success checkOp (checkFields range items) warnings).page verbose = .error (.unwritten .tooManyDigits) := by
  let report := success checkOp (checkFields range items) warnings
  have table : tablePart (checkFields range items) = .error (.unwritten .tooManyDigits) :=
    tablePart_of_long numbers member whole long
  have stopped : printPart (tablePart (checkFields range items)) = .error (.unwritten .tooManyDigits) := by
    rw [table]
    rfl
  have printed {part : Part} (sound : Yields (Screen.Block.Sound (isPrintable · = true)) part) :
      ∃ shown, printPart part = .ok shown := by
    obtain ⟨block, rfl, sound⟩ := sound
    obtain ⟨shown, rendered, -⟩ := (sound.render showable_isPrintable pageWidth).mapError (f := FormError.screen)
    exact ⟨shown, rendered⟩
  have each : ∀ part ∈ report.parts verbose,
      (∃ shown, printPart part = .ok shown) ∨ printPart part = .error (.unwritten .tooManyDigits) := by
    intro part inside
    rcases List.mem_cons.mp inside with rfl | rest
    · exact Or.inl (printed (.ok (sound_statusBlock showable_isPrintable (Within.ascii checkOp (by decide)))))
    · obtain rfl | shown := otherParts_yield showable_isPrintable verbose range items part rest
      · exact Or.inr stopped
      · exact Or.inl (printed shown)
  have inside : tablePart (checkFields range items) ∈ report.parts verbose :=
    List.mem_cons_of_mem _ (List.mem_append_left _ (List.mem_cons_of_mem _ List.mem_cons_self))
  rw [page, Yields.mapM_of_stop each inside stopped]
  rfl

variable {spec : String} {error : SpecError} (refused : Spec.parse spec = .error error) {op : String}
  (ascii : Within (isAscii · = true) op)

include refused ascii

theorem quietText_of_refused : Yields (Within (isPrintable · = true)) (failed op (failureOf error)).quietText := by
  have message : Within (isPrintable · = true) (failureOf error).message :=
    (Spec.refusal_of_parse refused).printable_message
  have opened := ((Within.ascii "ERROR: " (by decide)).append ascii).mono showable_isPrintable.ascii
  exact .ok ((opened.append (within_dash showable_isPrintable)).append message)

theorem format_refused {mode : Mode} (brief : mode.json = true ∨ mode.quiet = true ∨ mode.verbose = false) :
    Yields (Within (· ≠ '\x1b')) ((failed op (failureOf error)).format mode) := by
  unfold format
  split
  · apply jsonText_yields (by simp [failed])
    intro failure found pair member
    cases found
    obtain ⟨name, shown, rfl, -, -⟩ := detail_cases refused pair member
    exact Nat.le_add_left 1 2
  · next noJson =>
    split
    · have told := quietText_of_refused refused ascii
      exact told.mono fun _ printable => printable.mono fun _ => not_escape_of_isPrintable
    · next noQuiet =>
      have short : mode.verbose = false := by simpa [noJson, noQuiet] using brief
      rw [short]
      apply unescaped_of_page fun _ => not_escape_of_isPrintable
      have undetailed : false = true → Within (isPrintable · = true) spec := fun detailed => nomatch detailed
      exact page_of_refused showable_isPrintable refused (fun _ => id) undetailed ascii

theorem format_refused_of_not_mem (absent : '\u200d' ∉ spec.toList) (mode : Mode) :
    ∃ text, (failed op (failureOf error)).format mode = .ok text := by
  by_cases brief : mode.json = true ∨ mode.quiet = true ∨ mode.verbose = false
  · obtain ⟨text, made, -⟩ := format_refused refused ascii brief
    exact ⟨text, made⟩
  · simp only [not_or, Bool.not_eq_true, Bool.not_eq_false] at brief
    obtain ⟨noJson, noQuiet, detailed⟩ := brief
    have joinerless : Within (Text.isJoiner · = false) spec := by
      intro c member
      rw [Bool.eq_false_iff]
      intro joiner
      have same : c = '\u200d' := Char.toNat_inj.mp (by simpa [Text.isJoiner] using joiner)
      exact absent (same ▸ member)
    have wide (c : Char) (printable : isPrintable c = true) : Text.isJoiner c = false :=
      showable_isPrintable.no_joiner c printable
    have shown : true = true → Within (Text.isJoiner · = false) spec := fun _ => joinerless
    obtain ⟨text, made, -⟩ := page_of_refused showable_isJoiner refused wide shown ascii
    refine ⟨text, ?_⟩
    rw [format, noJson, noQuiet, detailed]
    exact made

end Report

end AlertRange

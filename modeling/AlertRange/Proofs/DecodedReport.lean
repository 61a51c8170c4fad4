import AlertRange.Proofs.FormattedReport
import AlertRange.Proofs.JsonRoundTrip

namespace AlertRange

open Value (Inside NamesOnce)

namespace Value

def Every (holds : Value → Prop) (value : Value) : Prop :=
  ∀ inner, Inside inner value → holds inner

/-- A record names each field once, and a double has digits. -/
def Tidy (value : Value) : Prop :=
  (∀ fields, value = .record fields → (fields.map Prod.fst).Nodup) ∧
    ∀ x, value = .float x → x.isNaN = false ∧ x.isInfinite = false

def isPlain : Value → Bool
  | .list _ | .record _ => false
  | .float x => !x.isNaN && !x.isInfinite
  | _ => true

theorem tidy_of_isPlain {value : Value} (plain : value.isPlain = true) : Every Tidy value := by
  intro inner inside
  cases inside with
  | item => cases plain
  | field => cases plain
  | self =>
    constructor
    · rintro fields rfl
      cases plain
    · rintro x rfl
      simpa [isPlain] using plain

theorem tidy_list {items : List Value} (each : ∀ item ∈ items, Every Tidy item) : Every Tidy (.list items) := by
  intro inner inside
  cases inside with
  | self => constructor <;> rintro _ ⟨⟩
  | item member inside => exact each _ member _ inside

theorem tidy_record {fields : Fields} (once : (fields.map Prod.fst).Nodup)
    (each : ∀ field ∈ fields, Every Tidy field.2) : Every Tidy (.record fields) := by
  intro inner inside
  cases inside with
  | self =>
    constructor
    · rintro other ⟨⟩
      exact once
    · rintro x ⟨⟩
  | field member inside => exact each _ member _ inside

theorem namesOnce_of_tidy {value : Value} (tidy : Every Tidy value) : value.NamesOnce :=
  fun fields inside => (tidy _ inside).1 fields rfl

theorem finite_of_tidy {value : Value} (tidy : Every Tidy value) {x : Binary64}
    (inside : Inside (.float x) value) :
    x.isNaN = false ∧ x.isInfinite = false :=
  (tidy _ inside).2 x rfl

end Value

open Value (Every Tidy tidy_of_isPlain tidy_list tidy_record)

namespace Json

def strictValue : Binary64 → Value
  | .finite neg units fits => .float (.finite neg units fits)
  | _ => .null

theorem word_strictFloat (x : Binary64) : Word (strictFloat x).toList (strictValue x) := by
  cases x with
  | nan => exact word_null
  | infinite neg => exact word_null
  | finite neg units fits =>
    rw [strictFloat, String.toList_ofList]
    exact word_finite reportLayout fits

theorem strictValue_of_finite {x : Binary64} (finite : x.isNaN = false ∧ x.isInfinite = false) :
    strictValue x = .float x := by
  cases x with
  | nan => cases finite.1
  | infinite neg => cases finite.2
  | finite neg units fits => rfl

theorem read?_text_of_tidy {value : Value} (tidy : Every Tidy value) :
    read? (text indented value) = some value := by
  rw [read?_text readable_indented (Value.namesOnce_of_tidy tidy) fun x _ => word_strictFloat x,
    Value.replaceFloats_eq_self value fun x inside => strictValue_of_finite (Value.finite_of_tidy tidy inside)]

end Json

namespace Report

/-! ### Depth -/

/-- The fields that a report holds in its data and in the details of its failure. -/
def held (report : Report) : Value.Fields :=
  report.data ++ (report.failure.map Failure.detail).getD []

theorem isTooDeep_iff {fields : Value.Fields} : isTooDeep fields = true ↔
    ∃ field ∈ fields, depthLimit < field.2.depth := by
  rw [isTooDeep, List.any_eq_true]
  simp only [decide_eq_true_eq]

theorem held_isTooDeep (report : Report) :
    (isTooDeep report.data || report.failure.any (isTooDeep ·.detail)) = isTooDeep report.held := by
  rw [held, isTooDeep, isTooDeep, List.any_append]
  cases report.failure <;> rfl

theorem jsonText_of_shallow {report : Report} (shallow : ∀ field ∈ report.held, field.2.depth ≤ depthLimit) :
    report.jsonText = .ok (Json.text Json.indented report.asData) := by
  have kept : isTooDeep report.held = false := by
    rw [Bool.eq_false_iff, ne_eq, isTooDeep_iff]
    rintro ⟨field, member, deep⟩
    exact absurd (shallow field member) (by omega)
  rw [jsonText, held_isTooDeep, kept]
  rfl

theorem jsonText_of_deep {report : Report} {field : String × Value} (member : field ∈ report.held)
    (deep : depthLimit < field.2.depth) : report.jsonText = .error .tooDeep := by
  rw [jsonText, held_isTooDeep, isTooDeep_iff.mpr ⟨field, member, deep⟩]
  rfl

theorem format_of_json {mode : Mode} (json : mode.json = true) (report : Report) :
    report.format mode = report.jsonText := by
  rw [format, if_pos json]

theorem read?_jsonText {report : Report} (once : report.asData.NamesOnce)
    (shallow : ∀ field ∈ report.held, field.2.depth ≤ depthLimit) :
    ∃ text, report.jsonText = .ok text ∧ Json.read? text = some (report.asData.replaceFloats Json.strictValue) :=
  ⟨_, jsonText_of_shallow shallow, Json.read?_text Json.readable_indented once fun x _ => Json.word_strictFloat x⟩

/-! ### Reports on texts and numbers -/

/-- A report that an operation gives, on whatever text and values. -/
inductive Returned (report : Report) : Prop
  | ofSpec (spec : String) (made : (ofSpec spec).outcome = .ok report)
  | ofCheck (spec : String) (values : List Value) (made : (ofCheck spec values).outcome = .ok report)

theorem tidy_asData {x : Binary64} (number : x ≠ .nan) : Every Tidy x.asData := by
  cases x with
  | nan => exact absurd rfl number
  | infinite neg =>
    exact tidy_of_isPlain rfl
  | finite neg units fits =>
    exact tidy_of_isPlain rfl

theorem tidy_valueData {value : Value} (number : value.Checkable) : Every Tidy (valueData value) := by
  cases number with
  | int n => exact tidy_of_isPlain rfl
  | float x =>
    by_cases nan : x = .nan
    · rw [nan]
      exact tidy_of_isPlain rfl
    · have same : valueData (.float x) = x.asData := by
        cases x with
        | nan => exact absurd rfl nan
        | infinite neg => rfl
        | finite neg units fits => rfl
      rw [same]
      exact tidy_asData nan

theorem tidy_toFields (range : Range) : ∀ field ∈ range.toFields, Every Tidy field.2 := by
  simp only [Range.toFields, List.forall_mem_cons]
  refine ⟨tidy_asData range.lower_ne_nan, tidy_asData range.upper_ne_nan, ?_, ?_, List.forall_mem_nil _⟩
  · exact tidy_of_isPlain rfl
  · exact tidy_of_isPlain rfl

theorem tidy_rangeFields (range : Range) : Every Tidy (.record (rangeFields range)) := by
  refine tidy_record (show ["start", "end", "invert", "spec", "violation"].Nodup by decide) ?_
  rw [rangeFields, List.forall_mem_append]
  refine ⟨tidy_toFields range, ?_⟩
  intro field member
  rw [List.mem_singleton.mp member]
  exact tidy_of_isPlain rfl

theorem tidy_item {item : Item} (number : item.value.Checkable) : Every Tidy item.asData := by
  refine tidy_record (show ["value", "alert"].Nodup by decide) ?_
  simp only [List.forall_mem_cons]
  exact ⟨tidy_valueData number, tidy_of_isPlain rfl, List.forall_mem_nil _⟩

theorem tidy_checkFields (range : Range) {items : List Item} (numbers : ∀ item ∈ items, item.value.Checkable) :
    Every Tidy (.record (checkFields range items)) := by
  refine tidy_record (show ["range", "violation", "items", "count", "alert_count"].Nodup by decide) ?_
  simp only [checkFields, List.forall_mem_cons]
  have inner : Every Tidy (.record range.toFields) :=
    tidy_record (show ["start", "end", "invert", "spec"].Nodup by decide) (tidy_toFields range)
  refine ⟨inner, ?_, tidy_list ?_, ?_, ?_, List.forall_mem_nil _⟩
  · exact tidy_of_isPlain rfl
  · intro data member
    obtain ⟨item, inside, rfl⟩ := List.mem_map.mp member
    exact tidy_item (numbers item inside)
  · exact tidy_of_isPlain rfl
  · exact tidy_of_isPlain rfl

theorem tidy_detail {spec : String} {error : SpecError} (refused : Spec.parse spec = .error error) :
    Every Tidy (.record (failureOf error).detail) := by
  have names : ((failureOf error).detail.map Prod.fst).Nodup := by
    obtain ⟨core, fault⟩ := error
    cases fault with
    | bound side token reason => exact (show ["spec", "token", "reason"].Nodup by decide)
    | _ => exact (show ["spec"].Nodup by decide)
  refine tidy_record names ?_
  intro field member
  obtain ⟨name, shown, rfl, -, -⟩ := detail_cases refused field member
  exact tidy_of_isPlain rfl

theorem returned_cases {report : Report} (returned : report.Returned) :
    (∃ range, report = success parseOp (rangeFields range) []) ∨
      (∃ range values, (∀ v ∈ values, v.Checkable) ∧
        report = success checkOp (checkFields range (values.map (itemOf range))) (warningsFor values)) ∨
      ∃ spec error op, Spec.parse spec = .error error ∧ Text.Within (Text.isAscii · = true) op ∧
        report = failed op (failureOf error) := by
  cases returned with
  | ofSpec spec made =>
    cases read : Spec.parse spec with
    | error error =>
      rw [ofSpec_of_error read] at made
      cases made
      exact Or.inr (Or.inr ⟨spec, error, _, read, .ascii _ (by decide), rfl⟩)
    | ok range =>
      rw [ofSpec_of_ok read] at made
      cases made
      exact Or.inl ⟨range, rfl⟩
  | ofCheck spec values made =>
    cases read : Spec.parse spec with
    | error error =>
      rw [ofCheck_of_error read] at made
      cases made
      exact Or.inr (Or.inr ⟨spec, error, _, read, .ascii _ (by decide), rfl⟩)
    | ok range =>
      by_cases numbers : ∀ v ∈ values, v.Checkable
      · rw [ofCheck_of_checkable read numbers] at made
        cases made
        exact Or.inr (Or.inl ⟨range, values, numbers, rfl⟩)
      · obtain ⟨before, offending, after, rfl, numbers, other⟩ := exists_first_offending numbers
        rw [ofCheck_of_not_checkable read numbers other] at made
        cases made

theorem numbers_itemOf (range : Range) {values : List Value} (numbers : ∀ v ∈ values, v.Checkable) :
    ∀ item ∈ values.map (itemOf range), item.value.Checkable := by
  intro item member
  obtain ⟨value, inside, rfl⟩ := List.mem_map.mp member
  exact numbers value inside

theorem tidy_success {op : String} {data : Value.Fields} {warnings : List String}
    (tidy : Every Tidy (.record data)) :
    Every Tidy (success op data warnings).asData := by
  refine tidy_record (show ["ok", "op", "data", "warnings", "error"].Nodup by decide) ?_
  simp only [success, List.forall_mem_cons]
  refine ⟨?_, ?_, tidy, tidy_list ?_, ?_, List.forall_mem_nil _⟩
  · exact tidy_of_isPlain rfl
  · exact tidy_of_isPlain rfl
  · intro warning member
    obtain ⟨text, -, rfl⟩ := List.mem_map.mp member
    exact tidy_of_isPlain rfl
  · exact tidy_of_isPlain rfl

theorem tidy_failed {op : String} {failure : Failure} (tidy : Every Tidy (.record failure.detail)) :
    Every Tidy (failed op failure).asData := by
  have told : Every Tidy (failureData (some failure)) := by
    refine tidy_record (show ["code", "message", "detail"].Nodup by decide) ?_
    simp only [List.forall_mem_cons]
    refine ⟨?_, ?_, tidy, List.forall_mem_nil _⟩
    · exact tidy_of_isPlain rfl
    · exact tidy_of_isPlain rfl
  refine tidy_record (show ["ok", "op", "data", "warnings", "error"].Nodup by decide) ?_
  simp only [failed, List.forall_mem_cons]
  have noData : Every Tidy (.record []) := tidy_record List.nodup_nil (List.forall_mem_nil _)
  have noWarning : Every Tidy (.list []) := tidy_list (List.forall_mem_nil _)
  refine ⟨?_, ?_, noData, noWarning, told, List.forall_mem_nil _⟩
  · exact tidy_of_isPlain rfl
  · exact tidy_of_isPlain rfl

theorem tidy_of_returned {report : Report} (returned : report.Returned) : Every Tidy report.asData := by
  rcases returned_cases returned with ⟨range, rfl⟩ | ⟨range, values, numbers, rfl⟩ |
    ⟨spec, error, op, refused, -, rfl⟩
  · exact tidy_success (tidy_rangeFields range)
  · exact tidy_success (tidy_checkFields range (numbers_itemOf range numbers))
  · exact tidy_failed (tidy_detail refused)

theorem shallow_of_returned {report : Report} (returned : report.Returned) :
    ∀ field ∈ report.held, field.2.depth ≤ depthLimit := by
  have enough : 3 ≤ depthLimit := by decide
  rcases returned_cases returned with ⟨range, rfl⟩ | ⟨range, values, numbers, rfl⟩ |
    ⟨spec, error, op, refused, -, rfl⟩
  · intro field member
    have held : field ∈ rangeFields range := by simpa [held, success] using member
    exact (shallow_rangeFields range field held).trans enough
  · intro field member
    have held : field ∈ checkFields range (values.map (itemOf range)) := by simpa [held, success] using member
    exact (shallow_checkFields (numbers_itemOf range numbers) field held).trans enough
  · intro field member
    have held : field ∈ (failureOf error).detail := by simpa [held, failed] using member
    obtain ⟨name, shown, rfl, -, -⟩ := detail_cases refused field held
    exact Nat.le_trans (show 1 ≤ 3 by decide) enough

theorem read?_of_returned {report : Report} (returned : report.Returned) :
    ∃ text, report.jsonText = .ok text ∧ Json.read? text = some report.asData :=
  ⟨_, jsonText_of_shallow (shallow_of_returned returned), Json.read?_text_of_tidy (tidy_of_returned returned)⟩

/-! ### Words for numbers -/

theorem asData_injective {x y : Binary64} (same : x.asData = y.asData) : x = y := by
  cases x <;> cases y
  case infinite.infinite neg other => cases neg <;> cases other <;> simp_all [Binary64.asData]
  all_goals simp_all [Binary64.asData]

theorem Reported.unique {v w data : Value} (first : Reported v data) {data' : Value} (second : Reported w data')
    (same : data = data') : v = w := by
  cases first <;> cases second <;> simp_all

theorem valueData_injective {v w : Value} (first : v.Checkable) (second : w.Checkable)
    (same : valueData v = valueData w) : v = w :=
  (reported_valueData first).unique (reported_valueData second) same

/-! ### Results -/

/-- In JSON a report whose records name each field once is a text that reads back as its data, with null for
doubles that have no digits, unless what it holds is too deep, which is an error. A report that an operation
gives has no such doubles, and reads back as it is; and the words in it tell which bound or which number they
are for. -/
theorem format_decodes {report : Report} (once : report.asData.NamesOnce) {mode : Mode} (json : mode.json = true) :
    ((∀ field ∈ report.held, field.2.depth ≤ depthLimit) →
      ∃ text, report.format mode = .ok text ∧
        Json.read? text = some (report.asData.replaceFloats Json.strictValue)) ∧
    ((∃ field ∈ report.held, depthLimit < field.2.depth) → report.format mode = .error .tooDeep) ∧
    (∀ returned : Report, returned.Returned →
      (∀ x, Inside (.float x) returned.asData → x.isNaN = false ∧ x.isInfinite = false) ∧
        ∃ text, returned.format mode = .ok text ∧ Json.read? text = some returned.asData) ∧
    (∀ x y : Binary64, x.asData = y.asData → x = y) ∧
    ∀ v w : Value, v.Checkable → w.Checkable → valueData v = valueData w → v = w := by
  simp only [format_of_json json]
  refine ⟨read?_jsonText once, ?_, ?_, fun x y => asData_injective, fun v w => valueData_injective⟩
  · rintro ⟨field, member, deep⟩
    exact jsonText_of_deep member deep
  · intro returned made
    exact ⟨fun x => Value.finite_of_tidy (tidy_of_returned made), read?_of_returned made⟩

theorem format_decodes_nan :
    let report := success "probe" [("list", .list [.float .nan, .text "\"\n"])] []
    report.asData.NamesOnce ∧ ∃ text, report.format ⟨true, false, true⟩ = .ok text ∧
      Json.read? text = some (.record [("ok", .bool true), ("op", .text "probe"),
        ("data", .record [("list", .list [.null, .text "\"\n"])]), ("warnings", .list []), ("error", .null)]) := by
  intro report
  have once : report.asData.NamesOnce := by
    intro fields inside
    cases inside with
    | self => exact (show ["ok", "op", "data", "warnings", "error"].Nodup by decide)
    | field member inside =>
      simp only [report, success, List.mem_cons, List.not_mem_nil, or_false] at member
      rcases member with rfl | rfl | rfl | rfl | rfl
      · cases inside
      · cases inside
      · cases inside with
        | self => exact (show ["list"].Nodup by decide)
        | field member inside =>
          rw [List.mem_singleton.mp member] at inside
          cases inside with
          | item member inside =>
            rcases List.mem_pair.mp member with rfl | rfl <;> cases inside
      · cases inside with
        | item member => cases member
      · cases inside
  refine ⟨once, (format_decodes once rfl).1 ?_⟩
  intro field member
  rw [List.mem_singleton.mp (show field ∈ [_] from member)]
  decide

def nested : Nat → Value
  | 0 => .int 1
  | n + 1 => .list [nested n]

theorem depth_nested (n : Nat) : (nested n).depth = n + 1 := by
  induction n with
  | zero => rfl
  | succ n ih => rw [nested, Value.depth, Value.itemDepth, Value.itemDepth, ih, Nat.max_zero]

/-- There is no JSON for a report that is nested too deep. -/
theorem format_nested : ¬ ∃ text, (success "deep" [("x", nested 299)] []).format ⟨true, false, false⟩ =
    .ok text := by
  have deep : depthLimit < (nested 299).depth := by
    rw [depth_nested, depthLimit]
    decide
  have refused : (success "deep" [("x", nested 299)] []).jsonText = .error .tooDeep :=
    jsonText_of_deep List.mem_cons_self deep
  rintro ⟨text, made⟩
  rw [format_of_json rfl, refused] at made
  cases made

end Report

end AlertRange

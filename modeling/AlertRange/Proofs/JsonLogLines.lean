import AlertRange.Proofs.LogRecords
import AlertRange.Proofs.LogSetups
import AlertRange.Proofs.OneLineJson

namespace AlertRange

open Value (Every Tidy tidy_of_isPlain tidy_list tidy_record)

open Text (Within isAscii)

namespace LogEvent

def givenNames : List String :=
  ["event", "level", "logger", "timestamp"]

/-- A name of a field that neither the lines of a log nor its records have for themselves. -/
def IsExtraName (name : String) : Prop :=
  name ∉ givenNames ∧ name ∉ LogCall.reservedNames ∧
    name ∉ ["getMessage", "stack", "positional_args"] ∧ name.toList.head? ≠ some '_'

instance (name : String) : Decidable (IsExtraName name) :=
  inferInstanceAs (Decidable (_ ∧ _ ∧ _ ∧ _))

def told (time : String) (event : LogEvent) : Value.Fields :=
  [("event", .text event.message)] ++ event.origin ++ [("timestamp", .text time)] ++ event.extras ++
    event.exceptionField

/-- Fields of an event that keep out of the way of those a log adds. -/
structure Plain (event : LogEvent) : Prop where
  once : (event.extras.map Prod.fst).Nodup
  named : ∀ field ∈ event.extras, IsExtraName field.1
  tidy : ∀ field ∈ event.extras, Every Tidy field.2

/-- A line of ASCII that decodes to fields, in some order and each name once. -/
structure Tells (fields : Value.Fields) (line : String) : Prop where
  ascii : Within (isAscii · = true) line
  unbroken : '\n' ∉ line.toList
  decodes : ∃ found : Value.Fields, Json.read? line = some (.record found) ∧ (found.map Prod.fst).Nodup ∧
    found.Perm fields

/-! ### Fields -/

theorem setAll_of_nodup {fields more : Value.Fields} (once : ((fields ++ more).map Prod.fst).Nodup) :
    setAll fields more = fields ++ more := by
  induction more generalizing fields with
  | nil => rw [setAll, List.foldl_nil, List.append_nil]
  | cons field more ih =>
    have absent : field.1 ∉ fields.map Prod.fst := by
      rw [List.map_append, List.map_cons, List.nodup_append] at once
      exact fun member => once.2.2 _ member _ List.mem_cons_self rfl
    have moved : fields ++ field :: more = fields ++ [field] ++ more := by simp
    rw [moved] at once ⊢
    rw [← ih once, setAll, setAll, List.foldl_cons, Value.Fields.set_of_not_mem absent]

variable {event : LogEvent} {time : String}

theorem exceptionField_cases (event : LogEvent) :
    event.exceptionField = [] ∨
      ∃ value, event.exceptionField = [("exc_info", value)] ∧ Every Tidy value ∧ value.Writable := by
  unfold exceptionField
  split
  · right
    split
    · refine ⟨_, rfl, tidy_list fun item member => ?_, ?_⟩
      · have null : item = .null := by simpa using member
        rw [null]
        exact tidy_of_isPlain rfl
      · rw [Value.Writable, Value.fault?, Value.faultWithin?, if_neg nestingLimit_ne_zero]
        rfl
    · exact ⟨_, rfl, tidy_of_isPlain rfl, Value.writable_bool true⟩
  · exact Or.inl rfl

section Plain

variable (plain : event.Plain)

include plain

theorem Plain.extra_of_name {name : String} (member : name ∈ event.extras.map Prod.fst) : IsExtraName name := by
  obtain ⟨field, inside, rfl⟩ := List.mem_map.mp member
  exact plain.named field inside

omit plain in
theorem names_told : (event.told time).map Prod.fst =
    givenNames ++ event.extras.map Prod.fst ++ event.exceptionField.map Prod.fst := by
  simp [told, origin, givenNames]

theorem nodup_told : ((event.told time).map Prod.fst).Nodup := by
  have own : (givenNames ++ event.extras.map Prod.fst).Nodup := by
    refine List.nodup_append.mpr ⟨by decide, plain.once, ?_⟩
    rintro name given other extra rfl
    exact (by decide : ∀ name ∈ givenNames, ¬ IsExtraName name) name given
      (plain.extra_of_name extra)
  rw [names_told]
  rcases exceptionField_cases event with none | ⟨value, raised, -⟩
  · rw [none, List.map_nil, List.append_nil]
    exact own
  · rw [raised, show [("exc_info", value)].map Prod.fst = ["exc_info"] from rfl]
    refine List.nodup_append.mpr ⟨own, List.nodup_singleton _, ?_⟩
    rintro name member other last rfl
    rw [List.mem_singleton.mp last] at member
    rcases List.mem_append.mp member with given | extra
    · revert given
      decide
    · exact absurd (plain.extra_of_name extra) (by decide)

omit plain in
theorem told_cases {field : String × Value} (member : field ∈ event.told time) :
    (field.1 ∈ givenNames ∧ field.2.isPlain = true) ∨ field ∈ event.extras ∨
      (field.1 = "exc_info" ∧ Every Tidy field.2) := by
  rcases List.mem_append.mp member with front | raised
  · rcases List.mem_append.mp front with own | extra
    · left
      simp only [origin, List.cons_append, List.nil_append, List.mem_cons, List.not_mem_nil, or_false] at own
      rcases own with rfl | rfl | rfl | rfl <;> exact ⟨by simp [givenNames], rfl⟩
    · exact Or.inr (Or.inl extra)
  · rcases exceptionField_cases event with none | ⟨value, some, tidy, -⟩
    · rw [none] at raised
      cases raised
    · rw [some] at raised
      rw [List.mem_singleton.mp raised]
      exact Or.inr (Or.inr ⟨rfl, tidy⟩)

theorem not_hidden {field : String × Value} (member : field ∈ event.told time) : field.1 ∉ hiddenNames := by
  rcases told_cases member with ⟨own, -⟩ | extra | ⟨raised, -⟩
  · exact (by decide : ∀ name ∈ givenNames, name ∉ hiddenNames) _ own
  · intro hidden
    exact (by decide : ∀ name ∈ hiddenNames, ¬ IsExtraName name) _ hidden (plain.named field extra)
  · rw [raised]
    decide

theorem tidy_told {field : String × Value} (member : field ∈ event.told time) : Every Tidy field.2 := by
  rcases told_cases member with ⟨-, plain⟩ | extra | ⟨-, tidy⟩
  · exact tidy_of_isPlain plain
  · exact plain.tidy field extra
  · exact tidy

theorem exceptionField_kept :
    (event.exceptionField.filter fun field => (event.extras.get? field.1).isNone) = event.exceptionField := by
  rcases exceptionField_cases event with none | ⟨value, raised, -⟩
  · rw [none]
    rfl
  · have absent : event.extras.get? "exc_info" = none := by
      rw [Value.Fields.get?, List.lookup_eq_none_iff]
      intro field member
      rw [bne_iff_ne]
      intro same
      exact absurd (same ▸ plain.named field member) (by decide)
    rw [raised, List.filter_cons_of_pos (by simp [absent])]
    rfl

/-- The fields in the order in which they are written. -/
def ordered (time : String) (event : LogEvent) : Value.Fields :=
  match event.route with
  | .message =>
    [("event", .text event.message)] ++ event.exceptionField ++
      (event.origin ++ event.extras ++ [("timestamp", .text time)])
  | .fields =>
    event.extras ++ event.exceptionField ++
      ([("event", .text event.message)] ++ event.origin ++ [("timestamp", .text time)])

omit plain in
/-- Every field of an event stands in it once. -/
theorem ordered_perm (time : String) (event : LogEvent) : (event.ordered time).Perm (event.told time) := by
  rw [← Multiset.coe_eq_coe, ordered, told]
  -- the routes put time and extras in different places, which a sum of multisets does not see
  cases event.route <;> simp only [← Multiset.coe_add] <;> abel

theorem fields_eq (time : String) : event.fields time = event.ordered time := by
  have same := ordered_perm time event
  have once := (same.map Prod.fst).nodup_iff.mpr (nodup_told plain)
  have kept : (event.ordered time).filter (·.1 ∉ hiddenNames) = event.ordered time :=
    List.filter_eq_self.mpr fun field member => decide_eq_true (not_hidden plain (same.mem_iff.mp member))
  rw [← kept, fields]
  unfold ordered at once ⊢
  cases route : event.route with
  | message =>
    simp only [route] at once ⊢
    rw [setAll_of_nodup once]
  | fields =>
    simp only [route] at once ⊢
    rw [exceptionField_kept plain, setAll_of_nodup once]

theorem fields_perm (time : String) : (event.fields time).Perm (event.told time) :=
  fields_eq plain time ▸ ordered_perm time event

theorem tells_jsonLine (time : String) : Tells (event.told time) (event.jsonLine time) := by
  have same := fields_perm plain time
  have once : ((event.fields time).map Prod.fst).Nodup := (same.map Prod.fst).nodup_iff.mpr (nodup_told plain)
  have tidy : Every Tidy (.record (event.fields time)) :=
    tidy_record once fun field member => tidy_told plain (same.mem_iff.mp member)
  have ascii : Within (isAscii · = true) (event.jsonLine time) := Json.writes_spaced.write 0 _
  refine ⟨ascii, ?_, _, Json.read?_spaced_of_tidy tidy, once, same⟩
  intro newline
  exact absurd (ascii _ newline) (by decide)

omit plain in
theorem findSome?_fault_exceptionField : event.exceptionField.findSome? (·.2.fault?) = none := by
  rcases exceptionField_cases event with none | ⟨value, some, -, writable⟩
  · rw [none, List.findSome?_nil]
  · rw [some, List.findSome?_singleton, writable]

theorem fault?_json (time : String) :
    LogForm.json.fault? time event = event.extras.findSome? (·.2.fault?) := by
  have own (text : String) : (Value.text text).fault? = none := Value.writable_text text
  change (event.fields time).findSome? (·.2.fault?) = _
  rw [fields_eq plain, ordered]
  cases event.route <;>
    simp [List.findSome?_append, findSome?_fault_exceptionField, origin, own]

theorem stop?_json (time : String) :
    LogForm.json.stop? time event =
      if event.extras.findSome? (·.2.fault?) = some .tooDeep then some (.unwritten .tooDeepJson) else none := by
  rw [← fault?_json plain time]
  unfold LogForm.stop?
  cases LogForm.json.fault? time event with
  | none => rfl
  | some fault => cases fault <;> rfl

theorem written_of_writable (time : String) (writable : ∀ field ∈ event.extras, field.2.Writable) :
    LogForm.json.written time event = event.jsonLine time ++ "\n" := by
  have clear : LogForm.json.fault? time event = none :=
    (fault?_json plain time).trans (List.findSome?_eq_none_iff.mpr writable)
  exact if_pos (List.findSome?_eq_none_iff.mp clear)

theorem written_of_fault (time : String) {fault : TextFault}
    (unwritten : event.extras.findSome? (·.2.fault?) = some fault) : LogForm.json.written time event = "" := by
  refine if_neg fun writable => ?_
  have clear : LogForm.json.fault? time event = none := List.findSome?_eq_none_iff.mpr writable
  rw [fault?_json plain, unwritten] at clear
  cases clear

end Plain

end LogEvent

namespace LogSetup

open LogEvent (IsExtraName Plain Tells tells_jsonLine)

variable {before : LogSetup} {verbose : Bool} {known : Known} {time : String}

theorem lines_configure_json (event : LogEvent) :
    (before.configure verbose true).lines time event = LogForm.json.written time event :=
  lines_configure event

theorem stop?_configure_json (event : LogEvent) :
    (before.configure verbose true).stop? time event = LogForm.json.stop? time event :=
  stop?_configure event

/-! ### Records on a range -/

theorem logger_of_logged {spec : String} {values : List Value} {record : LogRecord}
    (logged : Report.Logged spec values record) : record.logger = Report.loggerName := by
  cases logged <;> rfl

def recordEvent (record : LogRecord) (message : String) : LogEvent :=
  ⟨record.severity, record.logger, message, [], .message, false⟩

theorem passes_of_logged {spec : String} {values : List Value} {record : LogRecord}
    (logged : Report.Logged spec values record) (message : String) (json : Bool) :
    (before.configure verbose json).passes known (recordEvent record message) =
      (verbose || Severity.warning ≤ record.severity) := by
  have own : LoggerName.isUnder known ownName.toList record.logger.toList = true := by
    rw [logger_of_logged logged]
    exact isUnder_of_own (by decide) (by decide)
  have level : (before.configure verbose json).level known record.logger = ownSeverity verbose := by
    rw [level_configure, if_pos own]
  change decide ((before.configure verbose json).level known record.logger ≤ record.severity) = _
  rw [level]
  cases verbose with
  | false => rfl
  | true => cases record.severity <;> rfl

def recordFields (time : String) (record : LogRecord) : Value.Fields :=
  [("event", .text record.message), ("level", .text record.severity.name), ("logger", .text record.logger),
    ("timestamp", .text time)]

def shows (verbose : Bool) (record : LogRecord) : Bool :=
  (verbose || Severity.warning ≤ record.severity) && record.message?.isSome

theorem tells_recordEvent {spec : String} {values : List Value} {record : LogRecord}
    (logged : Report.Logged spec values record) {message : String} (made : record.message? = some message) :
    Tells (recordFields time record) ((recordEvent record message).jsonLine time) := by
  have plain : (recordEvent record message).Plain := ⟨List.nodup_nil, List.forall_mem_nil _, List.forall_mem_nil _⟩
  have named : (recordEvent record message).loggerName = record.logger := by
    have other : record.logger ≠ "" := by
      rw [logger_of_logged logged]
      decide
    exact if_neg other
  have fields : recordFields time record = (recordEvent record message).told time := by
    rw [recordFields, LogRecord.message, made, LogEvent.told, LogEvent.origin, named]
    rfl
  rw [fields]
  exact tells_jsonLine plain time

/-- Records on a range come out in their order, each on a line. -/
theorem recorded_of_logged {spec : String} {values : List Value} {records : List LogRecord}
    (logged : ∀ record ∈ records, Report.Logged spec values record) :
    ∃ lines : List String,
      (before.configure verbose true).recorded known time records = String.join (lines.map (· ++ "\n")) ∧
        List.Forall₂ (fun record line => Tells (recordFields time record) line)
          (records.filter (shows verbose)) lines := by
  induction records generalizing known with
  | nil => exact ⟨[], rfl, .nil⟩
  | cons record records ih =>
    obtain ⟨first, later⟩ := List.forall_mem_cons.mp logged
    cases made : record.message? with
    | none =>
      have hidden : shows verbose record = false := by simp [shows, made]
      have skipped : LogEvent.ofRecord? record = none := by rw [LogEvent.ofRecord?, made, Option.map_none]
      rw [recorded, List.filterMap_cons_none skipped, List.filter_cons_of_neg (by simp [hidden])]
      exact ih later
    | some message =>
      have event : LogEvent.ofRecord? record = some (recordEvent record message) := by
        rw [LogEvent.ofRecord?, made, Option.map_some]
        rfl
      have plain : (recordEvent record message).Plain :=
        ⟨List.nodup_nil, List.forall_mem_nil _, List.forall_mem_nil _⟩
      obtain ⟨lines, text, all⟩ := @ih (record.logger.toList :: known) later
      have passes : shows verbose record = (verbose || Severity.warning ≤ record.severity) := by simp [shows, made]
      rw [recorded, List.filterMap_cons_some event, writtenAll, written, passes_of_logged first, ← passes]
      by_cases shown : shows verbose record = true
      · refine ⟨(recordEvent record message).jsonLine time :: lines, ?_, ?_⟩
        · rw [if_pos shown, lines_configure_json, LogEvent.written_of_writable plain time (List.forall_mem_nil _),
            List.map_cons, String.join_cons, ← text]
          rfl
        · rw [List.filter_cons_of_pos shown]
          exact .cons (tells_recordEvent first made) all
      · refine ⟨lines, ?_, ?_⟩
        · rw [if_neg shown, String.empty_append, ← text]
          rfl
        · rw [List.filter_cons_of_neg shown]
          exact all

/-! ### Calls -/

def raisedField (call : LogCall) : Value.Fields :=
  if call.method = .exception then
    match call.route with
    | .message => [("exc_info", .list [.null, .null, .null])]
    | .fields => [("exc_info", .bool true)]
  else []

def callEvent (call : LogCall) (message : String) : LogEvent :=
  ⟨call.method.level, call.logger, message, call.extras, call.route, call.method = .exception⟩

theorem exceptionField_callEvent (call : LogCall) (message : String) :
    (callEvent call message).exceptionField = raisedField call := by
  unfold LogEvent.exceptionField raisedField callEvent
  by_cases raised : call.method = .exception
  · cases call.route <;> simp [raised]
  · simp [raised]

theorem told_callEvent (call : LogCall) (message : String) :
    (callEvent call message).told time =
      [("event", .text message), ("level", .text call.method.level.name),
        ("logger", .text (if call.logger = "" then "root" else call.logger)), ("timestamp", .text time)] ++
        call.extras ++ raisedField call := by
  rw [LogEvent.told, exceptionField_callEvent]
  rfl

theorem accepted_callEvent {call : LogCall} {message : String} (free : call.error? = none)
    (formatted : call.route = .message → Template.text call.template call.values = .ok message)
    (given : call.route = .fields → message = call.template) : call.Accepted (callEvent call message) := by
  refine ⟨?_, free⟩
  have made : call.message = .ok message := by
    unfold LogCall.message
    cases route : call.route with
    | message => exact formatted route
    | fields => exact congrArg Except.ok (given route).symm
  rw [LogCall.event, made]
  rfl

theorem call_configure_json {call : LogCall} {event : LogEvent} (accepted : call.Accepted event)
    (plain : event.Plain) (passes : (before.configure verbose true).passes known event = true) :
    (before.configure verbose true).call known time call =
      if event.extras.findSome? (·.2.fault?) = some .tooDeep then .error (.unwritten .tooDeepJson)
      else .ok (LogForm.json.written time event) := by
  rw [call_of_accepted accepted, if_pos passes, settle, stop?_configure_json, LogEvent.stop?_json plain,
    lines_configure_json]
  by_cases deep : event.extras.findSome? (·.2.fault?) = some .tooDeep
  · rw [if_pos deep, if_pos deep]
  · rw [if_neg deep, if_neg deep]

/-! ### Results -/

end LogSetup

end AlertRange

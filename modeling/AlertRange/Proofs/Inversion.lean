import AlertRange.Proofs.CheckReport
import AlertRange.Proofs.FalseAlert

namespace AlertRange

namespace Range

def opposite (range : Range) : Range :=
  { range with invert := !range.invert }

variable (range : Range)

theorem alerts_opposite (x : Binary64) : range.opposite.alerts x = !range.alerts x := by
  have bounds : range.opposite.contains x = range.contains x := rfl
  rw [alerts_eq, alerts_eq, bounds, opposite, Bool.xor_not]

theorem raises_opposite {value : Value} (number : value.Checkable) :
    range.opposite.raises value = !range.raises value := by
  cases number with
  | int n => exact range.alerts_opposite (.ofInt n)
  | float x => exact range.alerts_opposite x

theorem countP_opposite {values : List Value} (numbers : ∀ v ∈ values, v.Checkable) :
    values.countP range.raises + values.countP range.opposite.raises = values.length := by
  have other : values.countP range.opposite.raises = values.countP fun v => ¬ range.raises v := by
    apply List.countP_congr
    intro v member
    rw [range.raises_opposite (numbers v member)]
    simp
  rw [other]
  exact (List.length_eq_countP_add_countP range.raises).symm

end Range

namespace Text

variable {drop : Char → Bool}

theorem trim_of_head {cs : List Char} (kept : ∀ c, cs.head? = some c → drop c = false) :
    trim drop cs = trimEnd drop cs := by
  rw [trim, dropWhile_of_head kept]

theorem trimEnd_cons {c : Char} (kept : drop c = false) (cs : List Char) :
    trimEnd drop (c :: cs) = c :: trimEnd drop cs := by
  rw [trimEnd, trimEnd, List.reverse_cons, List.dropWhile_append]
  split
  · next nothing =>
    rw [List.isEmpty_iff.mp nothing, List.dropWhile_cons_of_neg (by simp [kept])]
    rfl
  · rw [List.reverse_append]
    rfl

end Text

namespace Spec

/-- The text does not begin with an at sign, nor with a character of the margins. -/
def Bare (text : String) : Prop :=
  ∀ c, text.toList.head? = some c → c ≠ '@' ∧ isMargin c = false

theorem trimmed_eq {text : String} (bare : Bare text) : trimmed text = Text.trimEnd isMargin text.toList :=
  Text.trim_of_head fun c head => (bare c head).2

theorem trimmed_mark {text : String} (bare : Bare text) : trimmed ("@" ++ text) = '@' :: trimmed text := by
  have mark : ("@" ++ text).toList = '@' :: text.toList := by simp
  have solid : ∀ c, ('@' :: text.toList).head? = some c → isMargin c = false := by simp [isMargin]
  rw [trimmed_eq bare, trimmed, mark, Text.trim_of_head solid, Text.trimEnd_cons rfl]

theorem head?_trimmed {text : String} (bare : Bare text) : (trimmed text).head? ≠ some '@' := by
  intro head
  rw [trimmed_eq bare] at head
  obtain ⟨rest, whole⟩ := Text.trimEnd_isPrefix isMargin text.toList
  have first : text.toList.head? = some '@' := by
    rw [← whole, List.head?_append, head]
    rfl
  exact (bare '@' first).1 rfl

theorem readRange_true (body : List Char) : readRange true body = (readRange false body).map Range.opposite := by
  rw [readRange, readRange]
  cases readBounds body with
  | error fault => rfl
  | ok bounds =>
    simp only [Except.bind]
    split <;> rfl

theorem parse_mark {text : String} (bare : Bare text) :
    parse ("@" ++ text) =
      ((parse text).map Range.opposite).mapError fun error => ⟨"@" ++ error.spec, error.fault⟩ := by
  have plain := readTrimmed_of_plain (head?_trimmed bare)
  have inverted : readTrimmed ('@' :: trimmed text) = (readRange false (trimmed text)).map Range.opposite :=
    readRange_true _
  rw [parse, parse, trimmed_mark bare, plain, inverted]
  cases readRange false (trimmed text) with
  | error fault =>
    have spec : String.ofList ('@' :: trimmed text) = "@" ++ .ofList (trimmed text) :=
      String.toList_inj.mp (by simp)
    simp only [Except.mapError, Except.map, spec]
  | ok range => rfl

end Spec

namespace Report

def Opposed (items items' : List Value) : Prop :=
  List.Forall₂ (fun item item' => ∃ shown alert, item = .record [("value", shown), ("alert", .bool alert)] ∧
    item' = .record [("value", shown), ("alert", .bool !alert)]) items items'

theorem opposed_itemOf (range : Range) {values : List Value} (numbers : ∀ v ∈ values, v.Checkable) :
    Opposed ((values.map (itemOf range)).map Item.asData)
      ((values.map (itemOf range.opposite)).map Item.asData) := by
  rw [Opposed, List.map_map, List.map_map, List.forall₂_map_left_iff, List.forall₂_map_right_iff,
    List.forall₂_same]
  intro value member
  refine ⟨valueData value, range.raises value, rfl, ?_⟩
  rw [← range.raises_opposite (numbers value member)]
  rfl

structure Opposite (range : Range) (values : List Value) (report report' : Report) : Prop where
  items : ∃ items items', report.data.get? "items" = some (.list items) ∧
    report'.data.get? "items" = some (.list items') ∧ Itemized range values items ∧ Opposed items items'
  warnings : report'.warnings = report.warnings
  count : report.data.get? "count" = some (.int values.length) ∧
    report'.data.get? "count" = some (.int values.length)
  alertCount : ∃ alerts alerts' : Nat, report.data.get? "alert_count" = some (.int alerts) ∧
    report'.data.get? "alert_count" = some (.int alerts') ∧ alerts + alerts' = values.length

theorem counts_checkFields (range : Range) (values : List Value) :
    (checkFields range (values.map (itemOf range))).get? "count" = some (.int values.length) ∧
      (checkFields range (values.map (itemOf range))).get? "alert_count" =
        some (.int (values.countP range.raises)) := by
  simp [checkFields, Value.Fields.get?_cons, countP_itemOf]

theorem ofCheck_opposite {text text' : String} {range : Range} (read : Spec.parse text = .ok range)
    (read' : Spec.parse text' = .ok range.opposite) {values : List Value} (numbers : ∀ v ∈ values, v.Checkable) :
    ∃ report report', (ofCheck text values).outcome = .ok report ∧ (ofCheck text' values).outcome = .ok report' ∧
      Opposite range values report report' := by
  rw [ofCheck_of_checkable read numbers, ofCheck_of_checkable read' numbers]
  obtain ⟨count, alerts⟩ := counts_checkFields range values
  obtain ⟨count', alerts'⟩ := counts_checkFields range.opposite values
  refine ⟨_, _, rfl, rfl, ?_, rfl, ⟨count, count'⟩, _, _, alerts, alerts', range.countP_opposite numbers⟩
  exact ⟨_, _, rfl, rfl, itemized_itemOf range numbers, opposed_itemOf range numbers⟩

/-- An at sign before a text keeps the bounds and makes every verdict on a number the opposite one, in the
reports on lists of numbers too. What is wrong with a text that is no range stays wrong. -/
theorem opposite_of_mark {text : String} (bare : Spec.Bare text) :
    ((∃ range, Spec.parse ("@" ++ text) = .ok range) ↔ ∃ range, Spec.parse text = .ok range) ∧
    (∀ error, Spec.parse text = .error error →
      ∃ error', Spec.parse ("@" ++ text) = .error error' ∧ error'.code = error.code ∧ error'.fault = error.fault) ∧
    ∀ range, Spec.parse text = .ok range →
      ∃ range', Spec.parse ("@" ++ text) = .ok range' ∧
        (range'.lower = range.lower ∧ range'.upper = range.upper ∧ range'.invert = !range.invert) ∧
        (∀ value : Value, value.Checkable →
          ∃ alert, range.check value = .ok alert ∧ range'.check value = .ok !alert) ∧
        ∀ values, (∀ v ∈ values, v.Checkable) →
          ∃ report report', (ofCheck text values).outcome = .ok report ∧
            (ofCheck ("@" ++ text) values).outcome = .ok report' ∧ Opposite range values report report' := by
  have marked := Spec.parse_mark bare
  refine ⟨?_, ?_, ?_⟩
  · rw [marked]
    cases Spec.parse text with
    | error error => simp [Except.map, Except.mapError]
    | ok range => simp [Except.map, Except.mapError]
  · intro error refused
    rw [refused] at marked
    exact ⟨_, marked, rfl, rfl⟩
  · intro range read
    rw [read] at marked
    refine ⟨range.opposite, marked, ⟨rfl, rfl, rfl⟩, ?_, fun values numbers =>
      ofCheck_opposite read marked numbers⟩
    intro value number
    refine ⟨range.raises value, range.check_of_checkable number, ?_⟩
    rw [range.opposite.check_of_checkable number, range.raises_opposite number]

theorem opposite_of_mark_nan :
    Spec.Bare "10:20" ∧ (∀ v ∈ [.int (10 ^ 400), .float .nan, .int 15], Value.Checkable v) ∧
      ∃ range report report', Spec.parse "10:20" = .ok range ∧
        (ofCheck "10:20" [.int (10 ^ 400), .float .nan, .int 15]).outcome = .ok report ∧
        (ofCheck ("@" ++ "10:20") [.int (10 ^ 400), .float .nan, .int 15]).outcome = .ok report' ∧
        Opposite range [.int (10 ^ 400), .float .nan, .int 15] report report' := by
  have bare : Spec.Bare "10:20" := by
    intro c head
    cases head
    decide
  have numbers : ∀ v ∈ [.int (10 ^ 400), .float .nan, .int 15], Value.Checkable v := by decide
  have accepted : (Spec.parse "10:20").isOk = true := by decide +kernel
  obtain ⟨-, -, opposite⟩ := opposite_of_mark bare
  cases read : Spec.parse "10:20" with
  | error error =>
    rw [read] at accepted
    cases accepted
  | ok range =>
    obtain ⟨range', -, -, -, checks⟩ := opposite range read
    obtain ⟨report, report', made, made', mirrored⟩ := checks _ numbers
    exact ⟨bare, numbers, range, report, report', rfl, made, made', mirrored⟩

end Report

end AlertRange

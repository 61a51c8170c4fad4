import AlertRange.Proofs.FieldRoundTrip
import AlertRange.Proofs.SpecDiagnosis
import AlertRange.Proofs.WrittenText

namespace AlertRange

open Numeral (Dialect)

namespace Coercion

theorem number_of_token {token : String} {n : Numeral} (number : Spec.boundDialect.Number token.toList n)
    (ascii : ∀ c ∈ token.toList, c.toNat < 0x80) : Coercion.number (.text token) = .ok n.toBinary64 := by
  -- the dialects differ in digits beyond ASCII and in words for NaN, of which the token has none
  have field := (Spec.boundDialect_regular.shares fieldDialect_regular ascii).number number
  have solid : ∀ c ∈ token.toList, Text.isWhiteSpace c = false := by
    intro c member
    rw [Bool.eq_false_iff]
    intro blank
    have value := Spec.valueDialect_number_iff.mpr number
    exact (CommandLine.foreign_of_isWhiteSpace blank).not_mem value member
  have trimmed : Text.trim Text.isWhiteSpace token.toList = token.toList :=
    Text.trimsTo_iff.mp (Text.trimsTo_self solid)
  have read : numeral? token = some n := by
    rw [numeral?, trimmed, Dialect.read?_of_number fieldDialect_regular field]
  rw [Coercion.number, read]

end Coercion

namespace Range

theorem ofReadFields_of_numbers {x y : Binary64} (number : x ≠ .nan) (number' : y ≠ .nan) (invert : Bool) :
    ofReadFields x y invert =
      if ordered : x ≤ y then .ok ⟨x, y, invert, ordered⟩ else .error [⟨"", .disorder⟩] := by
  have numbers : (x.isNaN || y.isNaN) = false := by
    rw [Bool.eq_false_iff, ne_eq, Bool.or_eq_true, Binary64.isNaN_iff, Binary64.isNaN_iff, not_or]
    exact ⟨number, number'⟩
  rw [ofReadFields, numbers, if_neg Bool.false_ne_true]

theorem ofFields_of_read {start stop : Value} {x y : Binary64} (lower : Coercion.number start = .ok x)
    (upper : Coercion.number stop = .ok y) (invert : Bool) :
    ofFields [("start", start), ("end", stop), ("invert", .bool invert)] = ofReadFields x y invert := by
  let fields : Value.Fields := [("start", start), ("end", stop), ("invert", .bool invert)]
  have first : fields.get? "start" = some start := by simp [fields, Value.Fields.get?_cons]
  have second : fields.get? "end" = some stop := by simp [fields, Value.Fields.get?_cons]
  have third : fields.get? "invert" = some (.bool invert) := by simp [fields, Value.Fields.get?_cons]
  have truth : Coercion.truth (.bool invert) = .ok invert := rfl
  change ofFields fields = _
  rw [ofFields, Coercion.field_of_get? first lower, Coercion.field_of_get? second upper,
    Coercion.field_of_get? third truth]

end Range

namespace Spec

theorem parse_of_tokens {a b : String} {m n : Numeral} (start : boundDialect.Number a.toList m)
    (stop : boundDialect.Number b.toList n) (invert : Bool) :
    parse ((if invert then "@" else "") ++ a ++ ":" ++ b) =
      if ordered : m.toBinary64 ≤ n.toBinary64 then .ok ⟨m.toBinary64, n.toBinary64, invert, ordered⟩
      else .error ⟨(if invert then "@" else "") ++ a ++ ":" ++ b,
        .order (.float m.toBinary64) (.float n.toBinary64)⟩ := by
  have low : LowerBound a.toList m.toBinary64 :=
    .number start ((Numeral.roundsTo_iff (Dialect.number_ne_nan start)).mpr rfl)
  have body : Body (a.toList ++ ':' :: b.toList) m.toBinary64 n.toBinary64 :=
    .both low stop ((Numeral.roundsTo_iff (Dialect.number_ne_nan stop)).mpr rfl)
  have text : (if invert then "@" else "") ++ a ++ ":" ++ b =
      .ofList (if invert then '@' :: (a.toList ++ ':' :: b.toList) else a.toList ++ ':' :: b.toList) := by
    apply String.toList_inj.mp
    cases invert <;> simp
  rw [text]
  exact body.parse_eq invert

end Spec

namespace Range

variable {a b : String} {m n : Numeral}

/-- A field may hold the text of a number or the number. -/
theorem number_of_mem (token : Spec.boundDialect.Number a.toList m) (ascii : ∀ c ∈ a.toList, c.toNat < 0x80) :
    ∀ value ∈ [Value.text a, .float m.toBinary64], Coercion.number value = .ok m.toBinary64 := by
  intro value member
  rcases List.mem_pair.mp member with rfl | rfl
  · exact Coercion.number_of_token token ascii
  · rfl

theorem ofFields_of_tokens (start : Spec.boundDialect.Number a.toList m)
    (stop : Spec.boundDialect.Number b.toList n)
    (ascii : ∀ c ∈ a.toList ++ b.toList, c.toNat < 0x80) (invert : Bool) :
    ∀ first ∈ [Value.text a, .float m.toBinary64], ∀ second ∈ [Value.text b, .float n.toBinary64],
      ofFields [("start", first), ("end", second), ("invert", .bool invert)] =
        if ordered : m.toBinary64 ≤ n.toBinary64 then .ok ⟨m.toBinary64, n.toBinary64, invert, ordered⟩
        else .error [⟨"", .disorder⟩] := by
  intro first one second other
  have lower := number_of_mem start (fun c member => ascii c (List.mem_append_left _ member)) first one
  have upper := number_of_mem stop (fun c member => ascii c (List.mem_append_right _ member)) second other
  rw [ofFields_of_read lower upper,
    ofReadFields_of_numbers (Spec.toBinary64_ne_nan start) (Spec.toBinary64_ne_nan stop)]

/-- Two numbers in ASCII make a range as the text of a range just where they make one as fields, and then the
same. If they make none, all that is wrong with the text and with the fields is that they are out of order.
Each field may hold the text of its number or the number. -/
theorem parse_ofFields_agree (start : Spec.boundDialect.Number a.toList m)
    (stop : Spec.boundDialect.Number b.toList n)
    (ascii : ∀ c ∈ a.toList ++ b.toList, c.toNat < 0x80) (invert : Bool) :
    let parsed := Spec.parse ((if invert then "@" else "") ++ a ++ ":" ++ b)
    let made := ofFields [("start", .text a), ("end", .text b), ("invert", .bool invert)]
    ((∃ range, parsed = .ok range) ↔ ∃ range, made = .ok range) ∧
    (∀ range range', parsed = .ok range → made = .ok range' → range.same range' = true ∧
      range'.spec = range.spec) ∧
    (∀ error, parsed = .error error →
      error.code = "INVALID_ORDER" ∧ error.fault = .order (.float m.toBinary64) (.float n.toBinary64)) ∧
    (∀ errors, made = .error errors → ∃ error, errors = [error] ∧ error.field = "" ∧
      error.message = ": Value error, min <= max violated [value_error]") ∧
    ∃ x y, CommandLine.readValue? a = some x ∧ CommandLine.readValue? b = some y ∧
      ∀ first ∈ [Value.text a, .float x], ∀ second ∈ [Value.text b, .float y],
        ofFields [("start", first), ("end", second), ("invert", .bool invert)] = made := by
  intro parsed made
  have text : parsed = _ := Spec.parse_of_tokens start stop invert
  have either := ofFields_of_tokens start stop ascii invert
  have fields : made = _ := either (.text a) (by simp) (.text b) (by simp)
  have first := CommandLine.readValue?_of_number (Spec.valueDialect_number_iff.mpr start)
  have second := CommandLine.readValue?_of_number (Spec.valueDialect_number_iff.mpr stop)
  rw [← fields] at either
  -- both ways come to the order of the doubles
  by_cases ordered : m.toBinary64 ≤ n.toBinary64
  · rw [dif_pos ordered] at text fields
    refine ⟨?_, ?_, ?_, ?_, _, _, first, second, either⟩
    · simp [text, fields]
    · intro range range' read read'
      cases text.symm.trans read
      cases fields.symm.trans read'
      exact ⟨same_refl _, rfl⟩
    · intro error refused
      cases text.symm.trans refused
    · intro errors refused
      cases fields.symm.trans refused
  · rw [dif_neg ordered] at text fields
    refine ⟨?_, ?_, ?_, ?_, _, _, first, second, either⟩
    · simp [text, fields]
    · intro range range' read
      cases text.symm.trans read
    · intro error refused
      cases text.symm.trans refused
      exact ⟨rfl, rfl⟩
    · intro errors refused
      cases fields.symm.trans refused
      exact ⟨_, rfl, rfl, by decide +kernel⟩

/-- The numbers are the wrong way round, and are rounded to one double. -/
theorem parse_ofFields_agree_of_rounded :
    let a := "9007199254740993"
    let b := "9007199254740992"
    (Spec.boundDialect.Number a.toList (.decimal (.ofInt 9007199254740993)) ∧
      Spec.boundDialect.Number b.toList (.decimal (.ofInt 9007199254740992)) ∧
      ∀ c ∈ a.toList ++ b.toList, c.toNat < 0x80) ∧
      ∃ range range', Spec.parse ("@" ++ a ++ ":" ++ b) = .ok range ∧
        ofFields [("start", .text a), ("end", .text b), ("invert", .bool true)] = .ok range' ∧
        range.same range' = true := by
  intro a b
  have start : Spec.boundDialect.Number a.toList (.decimal (.ofInt 9007199254740993)) :=
    (Dialect.read?_eq_some_iff Spec.boundDialect_regular rfl).mp (by decide +kernel)
  have stop : Spec.boundDialect.Number b.toList (.decimal (.ofInt 9007199254740992)) :=
    (Dialect.read?_eq_some_iff Spec.boundDialect_regular rfl).mp (by decide +kernel)
  have ascii : ∀ c ∈ a.toList ++ b.toList, c.toNat < 0x80 := by simp [a, b]
  have rounded : Numeral.toBinary64 (.decimal (.ofInt 9007199254740993)) ≤
      Numeral.toBinary64 (.decimal (.ofInt 9007199254740992)) := by
    decide +kernel
  have read := Spec.parse_of_tokens start stop true
  rw [dif_pos rounded] at read
  obtain ⟨both, same, -⟩ := parse_ofFields_agree start stop ascii true
  obtain ⟨range', made⟩ := both.mp ⟨_, read⟩
  exact ⟨⟨start, stop, ascii⟩, _, range', read, made, (same _ _ read made).1⟩

end Range

end AlertRange

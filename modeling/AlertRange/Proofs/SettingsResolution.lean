import Mathlib
import AlertRange.Settings

namespace AlertRange

namespace Environment

/-- Of the entries for a variable the last counts. -/
theorem get?_eq_some_iff {environment : Environment} {name text : String} :
    environment.get? name = some text ↔
      ∃ before entry after, environment = before ++ entry :: after ∧ Text.isWord name entry.1.toList = true ∧
        (∀ other ∈ after, Text.isWord name other.1.toList = false) ∧ entry.2 = text := by
  simp only [get?, Option.map_eq_some_iff, List.find?_eq_some_iff_append, Bool.not_eq_true']
  constructor
  · rintro ⟨entry, ⟨named, after, before, split, last⟩, rfl⟩
    refine ⟨before.reverse, entry, after.reverse, ?_, named, fun other member =>
      last other (by simpa using member), rfl⟩
    rw [← environment.reverse_reverse, split]
    simp
  · rintro ⟨before, entry, after, rfl, named, last, rfl⟩
    exact ⟨entry, ⟨named, after.reverse, before.reverse, by simp, fun other member =>
      last other (by simpa using member)⟩,
      rfl⟩

theorem get?_eq_none_iff {environment : Environment} {name : String} :
    environment.get? name = none ↔ ∀ entry ∈ environment, Text.isWord name entry.1.toList = false := by
  simp [get?]

end Environment

namespace Settings

def Sets (field : String) (flag : String × Value) : Prop :=
  flag.2.isTruthy = true ∧ Text.isWord field flag.1.toList = true

instance (field : String) (flag : String × Value) : Decidable (Sets field flag) :=
  inferInstanceAs (Decidable (flag.2.isTruthy = true ∧ Text.isWord field flag.1.toList = true))

/-- What decides about a field, and what is read from it: the first flag that sets the field, without one the
last entry for its variable, and without that nothing, which is off. -/
inductive Resolved (environment : Environment) (flags : Value.Fields) (field : String) :
    Except FieldFault Bool → Prop
  | flag {before after : Value.Fields} {flag : String × Value} (split : flags = before ++ flag :: after)
      (first : ∀ other ∈ before, ¬ Sets field other) (sets : Sets field flag) :
      Resolved environment flags field (Coercion.truth flag.2)
  | entry {before after : Environment} {entry : String × String} (unset : ∀ flag ∈ flags, ¬ Sets field flag)
      (split : environment = before ++ entry :: after)
      (last : ∀ other ∈ after, Text.isWord (variableName field) other.1.toList = false)
      (named : Text.isWord (variableName field) entry.1.toList = true) :
      Resolved environment flags field (Coercion.truthOfText entry.2)
  | off (unset : ∀ flag ∈ flags, ¬ Sets field flag)
      (absent : ∀ entry ∈ environment, Text.isWord (variableName field) entry.1.toList = false) :
      Resolved environment flags field (.ok false)

/-- A name that a flag can have. The type itself has one of its own, and a leading underscore is not for fields. -/
def IsFlagName (name : String) : Prop :=
  name ≠ ownArgument ∧ name.toList.head? ≠ some '_'

instance (name : String) : Decidable (IsFlagName name) :=
  inferInstanceAs (Decidable (name ≠ ownArgument ∧ name.toList.head? ≠ some '_'))

/-! ### One field -/

section Field

variable {environment : Environment} {flags : Value.Fields} {field : String}

theorem flag?_eq_find? : flag? flags field = (flags.find? fun flag => decide (Sets field flag)).map Prod.snd := by
  rw [flag?, setFlags, List.find?_filter]
  rfl

theorem flag?_eq_some_iff {value : Value} :
    flag? flags field = some value ↔
      ∃ before flag after, flags = before ++ flag :: after ∧ Sets field flag ∧
        (∀ other ∈ before, ¬ Sets field other) ∧
        flag.2 = value := by
  simp only [flag?_eq_find?, Option.map_eq_some_iff, List.find?_eq_some_iff_append, decide_eq_true_eq,
    Bool.not_eq_true', decide_eq_false_iff_not]
  constructor
  · rintro ⟨flag, ⟨sets, before, after, split, first⟩, same⟩
    exact ⟨before, flag, after, split, sets, first, same⟩
  · rintro ⟨before, flag, after, split, sets, first, same⟩
    exact ⟨flag, ⟨sets, before, after, split, first⟩, same⟩

theorem flag?_eq_none_iff : flag? flags field = none ↔ ∀ flag ∈ flags, ¬ Sets field flag := by
  simp [flag?_eq_find?]

/-- A fault that is reported tells which fault was found. -/
theorem mapError_field_injective {result other : Except FieldFault Bool}
    (same : result.mapError (FieldError.mk field) = other.mapError (FieldError.mk field)) : result = other := by
  cases result <;> cases other <;> simp_all [Except.mapError]

theorem exists_resolved (environment : Environment) (flags : Value.Fields) (field : String) :
    ∃ result, Resolved environment flags field result ∧
      resolveField environment flags field = result.mapError (FieldError.mk field) := by
  rw [resolveField]
  cases given : flag? flags field with
  | some value =>
    obtain ⟨before, flag, after, split, sets, first, rfl⟩ := flag?_eq_some_iff.mp given
    exact ⟨_, .flag split first sets, rfl⟩
  | none =>
    have unset := flag?_eq_none_iff.mp given
    cases found : environment.get? (variableName field) with
    | some text =>
      obtain ⟨before, entry, after, split, named, last, rfl⟩ := Environment.get?_eq_some_iff.mp found
      exact ⟨_, .entry unset split last named, rfl⟩
    | none => exact ⟨_, .off unset (Environment.get?_eq_none_iff.mp found), rfl⟩

theorem resolveField_of_resolved {result : Except FieldFault Bool}
    (resolved : Resolved environment flags field result) :
    resolveField environment flags field = result.mapError (FieldError.mk field) := by
  cases resolved with
  | flag split first sets => rw [resolveField, flag?_eq_some_iff.mpr ⟨_, _, _, split, sets, first, rfl⟩]
  | entry unset split last named =>
    rw [resolveField, flag?_eq_none_iff.mpr unset,
      Environment.get?_eq_some_iff.mpr ⟨_, _, _, split, named, last, rfl⟩]
  | off unset absent =>
    rw [resolveField, flag?_eq_none_iff.mpr unset, Environment.get?_eq_none_iff.mpr absent]
    rfl

theorem resolved_iff {result : Except FieldFault Bool} :
    Resolved environment flags field result ↔
      resolveField environment flags field = result.mapError (FieldError.mk field) := by
  constructor
  · exact resolveField_of_resolved
  · intro same
    obtain ⟨found, resolved, read⟩ := exists_resolved environment flags field
    rw [read] at same
    rwa [← mapError_field_injective same]

theorem Resolved.unique {result other : Except FieldFault Bool}
    (resolved : Resolved environment flags field result)
    (also : Resolved environment flags field other) : other = result :=
  mapError_field_injective ((resolved_iff.mp also).symm.trans (resolved_iff.mp resolved))

theorem Resolved.of_sets {result : Except FieldFault Bool} (resolved : Resolved environment flags field result)
    {flag : String × Value} (member : flag ∈ flags) (sets : Sets field flag) (other : Environment) :
    Resolved other flags field result := by
  cases resolved with
  | flag split first sets => exact .flag split first sets
  | entry unset => exact absurd sets (unset flag member)
  | off unset => exact absurd sets (unset flag member)

theorem Resolved.of_unset {result : Except FieldFault Bool} (resolved : Resolved environment flags field result)
    (unset : ∀ flag ∈ flags, ¬ Sets field flag) {text : String}
    (found : environment.get? (variableName field) = some text) : result = Coercion.truthOfText text := by
  obtain ⟨before, entry, after, split, named, last, rfl⟩ := Environment.get?_eq_some_iff.mp found
  exact Resolved.unique (.entry unset split last named) resolved

end Field

/-! ### All fields -/

variable (environment : Environment) (flags : Value.Fields)

def fieldFaults (result : String → Except FieldFault Bool) : List FieldError :=
  fieldNames.flatMap fun field => FieldError.ofResult ((result field).mapError (FieldError.mk field))

theorem fieldFaults_eq_nil_iff {result : String → Except FieldFault Bool} :
    fieldFaults result = [] ↔ ∀ field ∈ fieldNames, (result field).isOk = true := by
  rw [fieldFaults, List.flatMap_eq_nil_iff]
  refine forall₂_congr fun field _ => ?_
  cases result field <;> simp [Except.mapError, FieldError.ofResult, Except.isOk, Except.toBool]

theorem unknownFlags_eq :
    unknownFlags flags = (flags.filter fun flag =>
      flag.2.isTruthy && !fieldNames.any (Text.isWord · flag.1.toList)).map (⟨·.1, .unknown⟩) := by
  rw [unknownFlags, setFlags, List.filterMap_filter, ← List.filterMap_eq_map, List.filterMap_filter]
  congr 1
  funext flag
  cases flag.2.isTruthy <;> cases fieldNames.any (Text.isWord · flag.1.toList) <;> rfl

theorem unknownFlags_eq_nil_iff :
    unknownFlags flags = [] ↔
      ∀ flag ∈ flags, flag.2.isTruthy = true → ∃ field ∈ fieldNames, Text.isWord field flag.1.toList = true := by
  rw [unknownFlags_eq, List.map_eq_nil_iff, List.filter_eq_nil_iff]
  refine forall₂_congr fun flag _ => ?_
  simp [imp_iff_not_or]

variable {environment : Environment} {flags : Value.Fields}

def values (settings : Settings) : List Bool :=
  [settings.jsonOutput, settings.quiet, settings.verbose, settings.logJson]

/-- Settings are made of what decides about each field, or all faults are told. -/
theorem resolve_cases {result : String → Except FieldFault Bool}
    (resolved : ∀ field ∈ fieldNames, Resolved environment flags field (result field)) :
    (∃ settings, resolve environment flags = .ok settings ∧ fieldNames.map result = settings.values.map .ok ∧
        fieldFaults result ++ unknownFlags flags = []) ∨
      (resolve environment flags = .error (fieldFaults result ++ unknownFlags flags) ∧
        fieldFaults result ++ unknownFlags flags ≠ []) := by
  have field (name : String) (member : name ∈ fieldNames) := resolved_iff.mp (resolved name member)
  rw [resolve, field "json_output" (by decide), field "quiet" (by decide), field "verbose" (by decide),
    field "log_json" (by decide)]
  simp only [fieldFaults, fieldNames, List.flatMap_cons, List.flatMap_nil, List.map_cons, List.map_nil, values]
  -- no fault hides another, so the four fields are settled each on its own
  generalize result "json_output" = json
  generalize result "quiet" = quiet
  generalize result "verbose" = verbose
  generalize result "log_json" = logJson
  cases json <;> cases quiet <;> cases verbose <;> cases logJson <;> cases unknownFlags flags <;>
    simp [Except.mapError, FieldError.ofResult]

theorem ofFlags_eq (named : ∀ flag ∈ flags, IsFlagName flag.1) :
    ofFlags environment flags = (resolve environment flags).mapError .fields := by
  have absent : flags.any (·.1 == ownArgument) = false := by
    simpa using fun name value member => (named (name, value) member).1
  rw [ofFlags, absent, if_neg Bool.false_ne_true]
  cases resolve environment flags <;> rfl

theorem resolve_setFlags : resolve environment (setFlags flags) = resolve environment flags := by
  have again : setFlags (setFlags flags) = setFlags flags := by simp [setFlags]
  simp only [resolve, resolveField, flag?, unknownFlags, again]

/-! ### Results -/

/-- The settings that flags make in an environment. For every field it is clear what decides. Settings are
made exactly if that can be read for all fields and each flag that is set names one, and each field is then
what was read. Else there is a fault for each field that could not be read, in the order of the fields, and
one for each flag that is set and names none. Where a flag sets a field the environment does not count, where
none does its text is read, and flags that are not set change nothing. -/
theorem ofFlags_resolved (environment : Environment) {flags : Value.Fields}
    (named : ∀ flag ∈ flags, IsFlagName flag.1) :
    ∃ result : String → Except FieldFault Bool,
      (∀ field ∈ fieldNames, ∀ other, Resolved environment flags field other ↔ other = result field) ∧
      ((∃ settings, ofFlags environment flags = .ok settings) ↔
        (∀ field ∈ fieldNames, (result field).isOk = true) ∧
          ∀ flag ∈ flags, flag.2.isTruthy = true → ∃ field ∈ fieldNames, Text.isWord field flag.1.toList = true) ∧
      (∀ settings, ofFlags environment flags = .ok settings → fieldNames.map result = settings.values.map .ok) ∧
      (∀ error, ofFlags environment flags = .error error →
        error = .fields (fieldFaults result ++ (flags.filter fun flag =>
          flag.2.isTruthy && !fieldNames.any (Text.isWord · flag.1.toList)).map (⟨·.1, .unknown⟩))) ∧
      (∀ field ∈ fieldNames, ∀ flag ∈ flags, Sets field flag →
        ∀ environment', Resolved environment' flags field (result field)) ∧
      (∀ field ∈ fieldNames, (∀ flag ∈ flags, ¬ Sets field flag) →
        ∀ text, environment.get? (variableName field) = some text → result field = Coercion.truthOfText text) ∧
      ofFlags environment (setFlags flags) = ofFlags environment flags := by
  choose result resolved read using exists_resolved environment flags
  have cases := resolve_cases fun field _ => resolved field
  have kept : ∀ flag ∈ setFlags flags, IsFlagName flag.1 :=
    fun flag member => named flag (List.mem_of_mem_filter member)
  have same : ofFlags environment (setFlags flags) = ofFlags environment flags := by
    rw [ofFlags_eq kept, ofFlags_eq named, resolve_setFlags]
  rw [ofFlags_eq named] at same ⊢
  refine ⟨result, ?_, ?_, ?_, ?_, ?_, ?_, same⟩
  · intro field _ other
    constructor
    · exact (resolved field).unique
    · rintro rfl
      exact resolved field
  · rw [← fieldFaults_eq_nil_iff, ← unknownFlags_eq_nil_iff, ← List.append_eq_nil_iff]
    rcases cases with ⟨settings, made, -, none⟩ | ⟨refused, some⟩
    · rw [made]
      exact ⟨fun _ => none, fun _ => ⟨settings, rfl⟩⟩
    · rw [refused]
      constructor
      · rintro ⟨settings, made⟩
        cases made
      · intro none
        exact absurd none some
  · intro settings made
    rcases cases with ⟨found, made', values, -⟩ | ⟨refused, -⟩
    · rw [made'] at made
      cases made
      exact values
    · rw [refused] at made
      cases made
  · intro error refused
    rcases cases with ⟨found, made, -⟩ | ⟨refused', -⟩
    · rw [made] at refused
      cases refused
    · rw [refused'] at refused
      cases refused
      rw [unknownFlags_eq]
  · intro field _ flag member sets environment'
    exact (resolved field).of_sets member sets environment'
  · intro field _ unset text found
    exact (resolved field).of_unset unset found

theorem ofFlags_resolved_masked :
    let environment : Environment := [("NAGRANGE_QUIET", "maybe"), ("Nagrange_Verbose", "on")]
    let flags : Value.Fields := [("Quiet", .bool true), ("verbose", .bool false)]
    (∀ flag ∈ flags, IsFlagName flag.1) ∧ ∃ settings, ofFlags environment flags = .ok settings ∧
      Resolved environment flags "quiet" (.ok settings.quiet) ∧
      Resolved environment flags "verbose" (.ok settings.verbose) := by
  intro environment flags
  have named : ∀ flag ∈ flags, IsFlagName flag.1 := by
    intro flag member
    rcases List.mem_pair.mp member with rfl | rfl <;> decide
  obtain ⟨result, resolved, -, values, -⟩ := ofFlags_resolved environment named
  have made : ofFlags environment flags = .ok ⟨false, true, true, false⟩ := rfl
  have read := values _ made
  simp only [fieldNames, Settings.values, List.map_cons, List.cons.injEq] at read
  obtain ⟨-, quiet, verbose, -⟩ := read
  exact ⟨named, _, made, (resolved "quiet" (by decide) _).mpr quiet.symm,
    (resolved "verbose" (by decide) _).mpr verbose.symm⟩

/-- A flag sets a field though its name is that of the field but for the case of its letters. -/
theorem ofFlags_capitals :
    ofFlags [] [("Json_Output", .bool true)] = .ok ⟨true, false, false, false⟩ ∧ "Json_Output" ∉ fieldNames := by
  refine ⟨rfl, ?_⟩
  decide

end Settings

end AlertRange

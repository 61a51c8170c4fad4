import AlertRange.Field.Coercion

namespace AlertRange

inductive AssignmentError where
  | frozen (field : String)
  | notClass (value : Value)
  | notRecord (value : Value)
  | noSetter (owner field : String)
  | notWritable (owner field : String)

namespace AssignmentError

def message : AssignmentError → String
  | .frozen field => FieldError.message ⟨field, .frozen⟩
  | .notClass value => "__class__ must be set to a class, not '" ++ value.typeName ++ "' object"
  | .notRecord value => "__dict__ must be set to a dictionary, not a '" ++ value.typeName ++ "'"
  | .noSetter owner field => "property '" ++ field ++ "' of '" ++ owner ++ "' object has no setter"
  | .notWritable owner field =>
    "attribute '" ++ field ++ "' of '" ++ owner ++ "' objects is not writable"

end AssignmentError

inductive Assigned where
  /-- All fields, and what is kept beside them. -/
  | fields (fields : Value.Fields)
  /-- What is shown after the fields. -/
  | extras (value : Value)
  /-- What is only compared. -/
  | hidden (value : Value)
  /-- The names of the fields that were given, which nothing shows. -/
  | given
  /-- A value beside the fields. -/
  | aside (name : String) (value : Value)

def assigned (owner field : String) (value : Value) : Except AssignmentError Assigned :=
  if field = "__class__" then .error (.notClass value)
  else if field = "__dict__" then
    match value with
    | .record fields => .ok (.fields fields)
    | value => .error (.notRecord value)
  else if field = "__weakref__" then .error (.notWritable owner field)
  else if field = "__fields__" ∨ field = "__fields_set__" then .error (.noSetter owner field)
  else if field = "__pydantic_extra__" then .ok (.extras value)
  else if field = "__pydantic_private__" then .ok (.hidden value)
  else if field = "__pydantic_fields_set__" then .ok .given
  else if ['_'].isPrefixOf field.toList then .ok (.aside field value)
  else .error (.frozen field)

theorem assigned_of_field {field : String} (proper : field.toList.head? ≠ some '_') (owner : String)
    (value : Value) : assigned owner field value = .error (.frozen field) := by
  have other (name : String) (marked : name.toList.head? = some '_') : field ≠ name :=
    fun same => proper (same ▸ marked)
  have unmarked : ['_'].isPrefixOf field.toList = false := by
    cases chars : field.toList with
    | nil => rfl
    | cons c rest =>
      rw [chars, List.head?_cons, ne_eq, Option.some.injEq] at proper
      simpa [List.isPrefixOf] using fun same => proper same.symm
  simp only [assigned, other "__class__" (by decide), other "__dict__" (by decide),
    other "__weakref__" (by decide), other "__fields__" (by decide), other "__fields_set__" (by decide),
    other "__pydantic_extra__" (by decide), other "__pydantic_private__" (by decide),
    other "__pydantic_fields_set__" (by decide), unmarked, if_false, or_self, Bool.false_eq_true]

end AlertRange

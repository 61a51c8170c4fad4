import AlertRange.Field.Coercion
import AlertRange.Range.Basic

namespace AlertRange.Range

def ofReadFields (lower upper : Binary64) (invert : Bool) : Except (List FieldError) Range :=
  if lower.isNaN || upper.isNaN then .error [⟨"", .nanBound⟩]
  else if ordered : lower ≤ upper then .ok ⟨lower, upper, invert, ordered⟩
  else .error [⟨"", .disorder⟩]

def ofFields (fields : Value.Fields) : Except (List FieldError) Range :=
  let lower := Coercion.field "start" Coercion.number .zero fields
  let upper := Coercion.field "end" Coercion.number .infinity fields
  let invert := Coercion.field "invert" Coercion.truth false fields
  match lower, upper, invert with
  | .ok lower, .ok upper, .ok invert => ofReadFields lower upper invert
  | _, _, _ =>
    .error (FieldError.ofResult lower ++ FieldError.ofResult upper ++ FieldError.ofResult invert)

end AlertRange.Range

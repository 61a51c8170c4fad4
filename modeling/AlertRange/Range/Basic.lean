import AlertRange.Value

namespace AlertRange

/-- Alerts outside `lower .. upper`, or inside it when inverted. Neither bound is NaN, for NaN is not
ordered. -/
structure Range where
  lower : Binary64
  upper : Binary64
  invert : Bool
  ordered : lower ≤ upper
  deriving DecidableEq

namespace Range

def nonnegative : Range :=
  ⟨.zero, .infinity, false, by decide +kernel⟩

instance : Inhabited Range := ⟨nonnegative⟩

def same (a b : Range) : Bool :=
  a.lower.same b.lower && a.upper.same b.upper && a.invert == b.invert

def countDistinct : List Range → Nat
  | [] => 0
  | range :: rest => countDistinct rest + if rest.any range.same then 0 else 1

theorem lower_ne_nan (range : Range) : range.lower ≠ .nan :=
  range.ordered.1

theorem upper_ne_nan (range : Range) : range.upper ≠ .nan :=
  range.ordered.2.1

def contains (range : Range) (x : Binary64) : Bool :=
  range.lower ≤ x && x ≤ range.upper

/-- Whether a number raises an alert. NaN is outside every range. -/
def alerts (range : Range) (x : Binary64) : Bool :=
  if range.contains x then range.invert else !range.invert

theorem contains_iff {range : Range} {x : Binary64} :
    range.contains x = true ↔ range.lower ≤ x ∧ x ≤ range.upper := by
  simp [contains]

theorem contains_nan (range : Range) : range.contains .nan = false := by
  rw [Bool.eq_false_iff, ne_eq, contains_iff]
  exact fun inside => inside.1.2.1 rfl

theorem alerts_nan (range : Range) : range.alerts .nan = !range.invert := by
  simp [alerts, contains_nan]

theorem contains_lower (range : Range) : range.contains range.lower = true :=
  contains_iff.mpr ⟨Binary64.le_refl range.lower_ne_nan, range.ordered⟩

end Range

namespace Binary64

def leInt : Binary64 → Int → Bool
  | .nan, _ => false
  | .infinite neg, _ => neg
  | x, n => x.position ≤ n * unitsPerOne

def intLe : Int → Binary64 → Bool
  | _, .nan => false
  | _, .infinite neg => !neg
  | n, x => n * unitsPerOne ≤ x.position

end Binary64

namespace Range

/-- Membership of a whole number, without rounding it to a double. -/
def containsInt (range : Range) (n : Int) : Bool :=
  range.lower.leInt n && Binary64.intLe n range.upper

end Range

end AlertRange

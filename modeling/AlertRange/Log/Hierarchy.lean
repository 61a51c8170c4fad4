namespace AlertRange.LoggerName

def above? (name : List Char) : Option (List Char) :=
  match name.reverse.dropWhile (· != '.') with
  | _ :: c :: rest => some (c :: rest).reverse
  | _ => none

theorem above?_length {name upper : List Char} (found : above? name = some upper) :
    upper.length < name.length := by
  have shorter := (List.dropWhile_suffix (· != '.') (l := name.reverse)).length_le
  unfold above? at found
  split at found
  · next tail =>
    cases found
    rw [tail] at shorter
    simp only [List.length_cons, List.length_reverse] at shorter ⊢
    omega
  · cases found

def ancestors (name : List Char) : List (List Char) :=
  match _h : above? name with
  | none => []
  | some upper => upper :: ancestors upper.dropLast
termination_by name.length
decreasing_by
  have := above?_length _h
  simp only [List.length_dropLast]
  omega

theorem length_of_mem_ancestors {name upper : List Char} (member : upper ∈ ancestors name) :
    upper.length < name.length := by
  fun_induction ancestors name with
  | case1 => cases member
  | case2 name nearest found ih =>
    have first := above?_length found
    rcases List.mem_cons.mp member with rfl | higher
    · exact first
    · have := ih higher
      simp only [List.length_dropLast] at this
      omega

/-- Whether a logger is `top` or stands below it, loggers of the `known` names and `top` being all
there are. -/
def isUnder (known : List (List Char)) (top name : List Char) : Bool :=
  name == top ||
    match _h : (ancestors name).find? fun upper => upper == top || known.contains upper with
    | some upper => isUnder known top upper
    | none => false
termination_by name.length
decreasing_by exact length_of_mem_ancestors (List.mem_of_find?_eq_some _h)

theorem isUnder_self (known : List (List Char)) (top : List Char) : isUnder known top top = true := by
  rw [isUnder, beq_self_eq_true, Bool.true_or]

theorem above?_child {top part : List Char} (nonempty : top ≠ []) (noDot : '.' ∉ part) :
    above? (top ++ '.' :: part) = some top := by
  have last : ∀ c ∈ part.reverse, (c != '.') = true := by
    intro c member
    rw [bne_iff_ne]
    rintro rfl
    exact noDot (List.mem_reverse.mp member)
  have drop : (top ++ '.' :: part).reverse.dropWhile (· != '.') = '.' :: top.reverse := by
    rw [List.reverse_append, List.reverse_cons, List.append_assoc, List.singleton_append,
      List.dropWhile_append_of_pos last]
    rfl
  cases reversed : top.reverse with
  | nil => exact absurd (List.reverse_eq_nil_iff.mp reversed) nonempty
  | cons c rest =>
    simp only [above?, drop, reversed]
    rw [← reversed, List.reverse_reverse]

end AlertRange.LoggerName

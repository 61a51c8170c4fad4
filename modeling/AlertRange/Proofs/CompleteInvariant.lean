import AlertRange.Proofs.RoundTrip
import AlertRange.Range.Session

namespace AlertRange

namespace Binary64

theorem same_symm {x y : Binary64} (equal : x.same y = true) : y.same x = true := by
  obtain ⟨numberX, numberY, position⟩ := same_iff.mp equal
  exact same_iff.mpr ⟨numberY, numberX, position.symm⟩

theorem same_trans {x y z : Binary64} (first : x.same y = true) (second : y.same z = true) : x.same z = true := by
  obtain ⟨numberX, -, position⟩ := same_iff.mp first
  obtain ⟨-, numberZ, position'⟩ := same_iff.mp second
  exact same_iff.mpr ⟨numberX, numberZ, position.trans position'⟩

end Binary64

namespace Range

variable {a b : Range}

theorem same_symm (equal : a.same b = true) : b.same a = true := by
  obtain ⟨⟨lower, upper⟩, invert⟩ := same_iff.mp equal
  exact same_iff.mpr ⟨⟨Binary64.same_symm lower, Binary64.same_symm upper⟩, invert.symm⟩

theorem same_trans {c : Range} (first : a.same b = true) (second : b.same c = true) : a.same c = true := by
  obtain ⟨⟨lower, upper⟩, invert⟩ := same_iff.mp first
  obtain ⟨⟨lower', upper'⟩, invert'⟩ := same_iff.mp second
  exact same_iff.mpr ⟨⟨Binary64.same_trans lower lower', Binary64.same_trans upper upper'⟩, invert.trans invert'⟩

theorem same_of_spec_eq (equal : a.spec = b.spec) : a.same b = true := by
  obtain ⟨back, read, sameA, -⟩ := Spec.exists_parse_spec a
  obtain ⟨back', read', sameB, -⟩ := Spec.exists_parse_spec b
  rw [equal, read'] at read
  cases read
  exact same_trans (same_symm sameA) sameB

theorem contains_congr (equal : a.same b = true) {x : Binary64} (inside : a.contains x = true) :
    b.contains x = true := by
  obtain ⟨⟨lower, upper⟩, -⟩ := same_iff.mp equal
  obtain ⟨above, below⟩ := contains_iff.mp inside
  have fixed := Binary64.same_refl above.2.1
  exact contains_iff.mpr
    ⟨Binary64.le_of_same above (Binary64.same_symm lower) fixed,
      Binary64.le_of_same below fixed (Binary64.same_symm upper)⟩

theorem alerts_congr (equal : a.same b = true) (x : Binary64) : a.alerts x = b.alerts x := by
  have inside : a.contains x = b.contains x := by
    rw [Bool.eq_iff_iff]
    exact ⟨contains_congr equal, contains_congr (same_symm equal)⟩
  rw [alerts, alerts, inside, (same_iff.mp equal).2]

theorem contains_upper (range : Range) : range.contains range.upper = true :=
  contains_iff.mpr ⟨range.ordered, Binary64.le_refl range.upper_ne_nan⟩

/-- Each range holds its own bounds, and NaN tells whether it is inverted. -/
theorem same_of_alerts_eq (equal : ∀ x, a.alerts x = b.alerts x) : a.same b = true := by
  have invert : a.invert = b.invert := by
    have outside := equal .nan
    rwa [alerts_nan, alerts_nan, Bool.not_inj_iff] at outside
  have inside (x : Binary64) : a.contains x = true ↔ b.contains x = true := by
    have verdict := equal x
    rw [alerts, alerts, invert] at verdict
    cases first : a.contains x <;> cases second : b.contains x <;> simp [first, second] at verdict ⊢
  obtain ⟨lowerBelow, -⟩ := contains_iff.mp ((inside a.lower).mp a.contains_lower)
  obtain ⟨lowerAbove, -⟩ := contains_iff.mp ((inside b.lower).mpr b.contains_lower)
  obtain ⟨-, upperAbove⟩ := contains_iff.mp ((inside a.upper).mp a.contains_upper)
  obtain ⟨-, upperBelow⟩ := contains_iff.mp ((inside b.upper).mpr b.contains_upper)
  exact same_iff.mpr
    ⟨⟨Binary64.same_of_le lowerAbove lowerBelow, Binary64.same_of_le upperAbove upperBelow⟩, invert⟩

def verdicts (range : Range) (x : Binary64) : Except CheckError Bool :=
  range.check (.float x)

theorem verdicts_eq (range : Range) (x : Binary64) : range.verdicts x = .ok (range.alerts x) := rfl

theorem same_iff_spec_eq : a.same b = true ↔ a.spec = b.spec :=
  ⟨spec_congr, same_of_spec_eq⟩

theorem same_iff_verdicts_eq : a.same b = true ↔ a.verdicts = b.verdicts := by
  constructor
  · intro equal
    funext x
    rw [verdicts_eq, verdicts_eq, alerts_congr equal]
  · intro equal
    apply same_of_alerts_eq
    intro x
    have verdict := congrFun equal x
    rwa [verdicts_eq, verdicts_eq, Except.ok.injEq] at verdict

/-- Ranges are as many as their values under a map that tells just those apart which are not the same. -/
theorem countDistinct_eq_ncard {α : Type} {form : Range → α}
    (complete : ∀ {a b : Range}, a.same b = true ↔ form a = form b) (ranges : List Range) :
    countDistinct ranges = {value | ∃ range ∈ ranges, form range = value}.ncard := by
  induction ranges with
  | nil => simp [countDistinct]
  | cons range rest ih =>
    have finite : {value | ∃ range ∈ rest, form range = value}.Finite := rest.finite_toSet.image form
    have grown : {value | ∃ range' ∈ range :: rest, form range' = value} =
        insert (form range) {value | ∃ range' ∈ rest, form range' = value} := by
      ext value
      simp [eq_comm]
    rw [countDistinct, ih, grown]
    split
    · next known =>
      obtain ⟨other, member, equal⟩ := List.any_eq_true.mp known
      have present : form range ∈ {value | ∃ range' ∈ rest, form range' = value} :=
        ⟨other, member, (complete.mp equal).symm⟩
      rw [Set.ncard_insert_of_mem present, Nat.add_zero]
    · next fresh =>
      have absent : form range ∉ {value | ∃ range' ∈ rest, form range' = value} := by
        rintro ⟨other, member, equal⟩
        exact fresh (List.any_eq_true.mpr ⟨other, member, complete.mpr equal.symm⟩)
      rw [Set.ncard_insert_of_notMem absent finite]

theorem parseAll_of_forall₂ {specs : List String} {ranges : List Range}
    (accepted : List.Forall₂ (fun text range => Spec.parse text = .ok range) specs ranges) :
    parseAll specs = .ok ranges := by
  induction accepted with
  | nil => rfl
  | cons read _ ih =>
    rw [parseAll, read, Except.bind, ih]
    rfl

/-- Two ranges are the same exactly if they have one canonical text, and exactly if they give one verdict on every
double. So the ranges of accepted texts are as many as their canonical texts, and as many as their verdicts. -/
theorem same_iff_spec_iff_check (a b : Range) {specs : List String} {ranges : List Range}
    (accepted : List.Forall₂ (fun text range => Spec.parse text = .ok range) specs ranges) :
    [a.same b = true, a.spec = b.spec, ∀ x, a.check (.float x) = b.check (.float x)].TFAE ∧
      ∃ n, (∀ current : Current, current.answer (.countDistinct specs) = .ok (.count n)) ∧
        n = {text | ∃ range ∈ ranges, range.spec = text}.ncard ∧
        n = {verdicts | ∃ range ∈ ranges, (fun x => range.check (.float x)) = verdicts}.ncard := by
  constructor
  · tfae_have 1 ↔ 2 := same_iff_spec_eq
    tfae_have 1 ↔ 3 := same_iff_verdicts_eq.trans funext_iff
    tfae_finish
  · refine ⟨countDistinct ranges, ?_, countDistinct_eq_ncard same_iff_spec_eq ranges,
      countDistinct_eq_ncard same_iff_verdicts_eq ranges⟩
    intro current
    cases current <;>
      simp only [Current.answer, Request.answer?, parseAll_of_forall₂ accepted, Except.map, Except.mapError]

/-- Of three texts two are of one range: a lower bound of minus zero is the one that is left out. -/
theorem same_iff_spec_iff_check_of_zeros :
    ∃ ranges, List.Forall₂ (fun text range => Spec.parse text = .ok range) ["-0:10", "10", "@10"] ranges ∧
      {text | ∃ range ∈ ranges, range.spec = text}.ncard = 2 ∧
      {verdicts | ∃ range ∈ ranges, (fun x => range.check (.float x)) = verdicts}.ncard = 2 := by
  have accepted (text : String) (read : (Spec.parse text).toBool = true) :
    ∃ range, Spec.parse text = .ok range := by
    cases parsed : Spec.parse text with
    | ok range => exact ⟨range, rfl⟩
    | error fault =>
      rw [parsed] at read
      cases read
  obtain ⟨first, readFirst⟩ := accepted "-0:10" (by decide +kernel)
  obtain ⟨second, readSecond⟩ := accepted "10" (by decide +kernel)
  obtain ⟨third, readThird⟩ := accepted "@10" (by decide +kernel)
  have read : List.Forall₂ (fun text range => Spec.parse text = .ok range) ["-0:10", "10", "@10"]
      [first, second, third] := .cons readFirst (.cons readSecond (.cons readThird .nil))
  obtain ⟨-, n, answered, texts, verdicts⟩ := same_iff_spec_iff_check first second read
  have counted : (parseAll ["-0:10", "10", "@10"]).toOption.map countDistinct = some 2 := by decide +kernel
  rw [parseAll_of_forall₂ read, Except.toOption, Option.map_some, Option.some.injEq] at counted
  have answer := answered (.range .nonnegative)
  simp only [Current.answer, Request.answer?, parseAll_of_forall₂ read, counted, Except.map, Except.mapError,
    Except.ok.injEq, Reply.count.injEq] at answer
  subst answer
  exact ⟨_, read, texts.symm, verdicts.symm⟩

end Range

end AlertRange

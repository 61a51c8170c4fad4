import AlertRange.Proofs.SpecGrammar
import AlertRange.Range.Session

namespace AlertRange

namespace Range

theorem not_upper_lt_lower (range : Range) : ¬ range.upper < range.lower := by
  intro reversed
  have above := reversed.2.2
  have below := range.ordered.2.2
  omega

theorem ofReadFields_eq_ok_iff {lower upper : Binary64} {invert : Bool} {range : Range} :
    ofReadFields lower upper invert = .ok range ↔
      (lower ≠ .nan ∧ upper ≠ .nan ∧ ¬ upper < lower) ∧
        lower = range.lower ∧ upper = range.upper ∧ invert = range.invert := by
  unfold ofReadFields
  constructor
  · intro made
    split at made
    · cases made
    · split at made
      · next ordered =>
        cases made
        exact ⟨⟨ordered.1, ordered.2.1, not_upper_lt_lower ⟨lower, upper, invert, ordered⟩⟩, rfl, rfl, rfl⟩
      · cases made
  · rintro ⟨⟨numberStart, numberEnd, notBelow⟩, rfl, rfl, rfl⟩
    rw [if_neg, dif_pos range.ordered]
    rw [Bool.or_eq_true, Binary64.isNaN_iff, Binary64.isNaN_iff, not_or]
    exact ⟨numberStart, numberEnd⟩

theorem ofFields_eq_ok_iff {fields : Value.Fields} {range : Range} :
    Range.ofFields fields = .ok range ↔
      Coercion.field "start" Coercion.number .zero fields = .ok range.lower ∧
        Coercion.field "end" Coercion.number .infinity fields = .ok range.upper ∧
        Coercion.field "invert" Coercion.truth false fields = .ok range.invert := by
  unfold ofFields
  generalize Coercion.field "start" Coercion.number .zero fields = lower
  generalize Coercion.field "end" Coercion.number .infinity fields = upper
  generalize Coercion.field "invert" Coercion.truth false fields = invert
  have checked : range.lower ≠ .nan ∧ range.upper ≠ .nan ∧ ¬ range.upper < range.lower :=
    ⟨range.lower_ne_nan, range.upper_ne_nan, range.not_upper_lt_lower⟩
  cases lower with
  | error fault => simp
  | ok lower =>
    cases upper with
    | error fault => simp
    | ok upper =>
      cases invert with
      | error fault => simp
      | ok invert =>
        simp only [ofReadFields_eq_ok_iff, Except.ok.injEq]
        constructor
        · exact And.right
        · rintro ⟨rfl, rfl, rfl⟩
          exact ⟨checked, rfl, rfl, rfl⟩

end Range

/-- The requests that make a range, and the range that each makes. -/
inductive Request.Makes : Request → Range → Prop
  | read {text range} (accepted : Spec.parse text = .ok range) : Makes (.read text) range
  | make {fields range} (accepted : Range.ofFields fields = .ok range) : Makes (.make fields) range

/-- Assignment to a field, and all that is asked. A name with an underscore in front is no field. -/
def Step.OnFields : Step → Prop
  | .ask _ => True
  | .assign name _ => name.toList.head? ≠ some '_'

instance : DecidablePred Step.OnFields
  | .ask _ => inferInstanceAs (Decidable True)
  | .assign _ _ => inferInstanceAs (Decidable (_ ≠ _))

namespace Current

def afterSteps (current : Current) (steps : List Step) : Current :=
  steps.foldl (fun current s => (current.step s).1) current

theorem afterSteps_append (current : Current) (steps more : List Step) :
    current.afterSteps (steps ++ more) = (current.afterSteps steps).afterSteps more :=
  List.foldl_append

theorem run_append (current : Current) (steps more : List Step) :
    current.run (steps ++ more) = current.run steps ++ (current.afterSteps steps).run more := by
  induction steps generalizing current with
  | nil => rfl
  | cons s rest ih =>
    rw [List.cons_append, run, run, ih, List.cons_append]
    rfl

theorem answer_eq_range_iff {current : Current} {request : Request} {made : Range} :
    current.answer request = .ok (.range made) ↔ request.Makes made := by
  have wrapped {ε α δ : Type} {e : Except ε α} {f : α → Reply} {g : ε → δ} {reply : Reply} :
      (e.map f).mapError g = .ok reply ↔ ∃ a, e = .ok a ∧ f a = reply := by
    cases e <;> simp [Except.map, Except.mapError]
  constructor
  · intro answered
    cases request
    case read text =>
      obtain ⟨range, accepted, same⟩ := wrapped.mp answered
      cases same
      exact .read accepted
    case make fields =>
      obtain ⟨range, accepted, same⟩ := wrapped.mp answered
      cases same
      exact .make accepted
    all_goals exact absurd answered (answer_of_isQuery rfl made)
  · intro makes
    cases makes with
    | read accepted => exact wrapped.mpr ⟨made, accepted, rfl⟩
    | make accepted => exact wrapped.mpr ⟨made, accepted, rfl⟩

/-- A step either makes the next range or leaves the one there is. -/
theorem step_cases (held : Range) {s : Step} (proper : s.OnFields) :
    (∃ request made, s = .ask request ∧ request.Makes made ∧
        (Current.range held).step s = (.range made, .ok (.range made))) ∨
      (((Current.range held).step s).1 = .range held ∧
        ∀ made, ((Current.range held).step s).2 ≠ .ok (.range made)) := by
  cases s with
  | assign name value =>
    rw [step_assign_of_field held value proper]
    exact Or.inr ⟨rfl, nofun⟩
  | ask request =>
    by_cases answered : ∃ made, (Current.range held).answer request = .ok (.range made)
    · obtain ⟨made, answered⟩ := answered
      refine Or.inl ⟨request, made, rfl, answer_eq_range_iff.mp answered, ?_⟩
      rw [step, answered, after]
    · have other made : (Current.range held).answer request ≠ .ok (.range made) :=
        fun equal => answered ⟨made, equal⟩
      refine Or.inr ⟨?_, other⟩
      rw [step]
      unfold after
      split
      · next made equal => exact absurd equal (other made)
      · rfl

/-- While only fields are assigned to, what is current is a range. -/
theorem afterSteps_range (held : Range) (steps : List Step) (proper : ∀ s ∈ steps, s.OnFields) :
    ∃ now, (Current.range held).afterSteps steps = .range now := by
  induction steps generalizing held with
  | nil => exact ⟨held, rfl⟩
  | cons s rest ih =>
    have later : ∀ s ∈ rest, s.OnFields := fun t member => proper t (List.mem_cons_of_mem s member)
    have step := step_cases held (proper s List.mem_cons_self)
    rw [afterSteps, List.foldl_cons]
    rcases step with ⟨request, made, -, -, made'⟩ | ⟨kept, -⟩
    · rw [made']
      exact ih made later
    · rw [kept]
      exact ih held later

/-- In a run of steps on fields every step starts from a range and ends in one. The range after the step has
numbers in order as its bounds; it is the range before the step if the step fails, and it is another one only
if the step makes it. -/
theorem run_on_fields (steps : List Step) (next : Step) (proper : ∀ s ∈ steps ++ [next], s.OnFields) :
    ∃ held now reply,
      (Current.range .nonnegative).afterSteps steps = .range held ∧
      (Current.range .nonnegative).afterSteps (steps ++ [next]) = .range now ∧
      (Current.range .nonnegative).run (steps ++ [next]) = (Current.range .nonnegative).run steps ++ [reply] ∧
      (now.lower ≠ .nan ∧ now.upper ≠ .nan ∧ ¬ now.upper < now.lower) ∧
      (∀ error, reply = .error error → now = held) ∧
      (now ≠ held → ∃ request, next = .ask request ∧ request.Makes now ∧ reply = .ok (.range now)) := by
  obtain ⟨held, before⟩ := afterSteps_range .nonnegative steps
    fun s member => proper s (List.mem_append_left _ member)
  have last : (Current.range .nonnegative).afterSteps (steps ++ [next]) = ((Current.range held).step next).1 := by
    rw [afterSteps_append, before]
    rfl
  have replies : (Current.range .nonnegative).run (steps ++ [next]) =
      (Current.range .nonnegative).run steps ++ [((Current.range held).step next).2] := by
    rw [run_append, before]
    rfl
  rcases step_cases held (proper next (by simp)) with ⟨request, made, asked, makes, step⟩ | ⟨kept, -⟩
  · rw [step] at last replies
    exact ⟨held, made, _, before, last, replies, ⟨made.lower_ne_nan, made.upper_ne_nan,
      made.not_upper_lt_lower⟩, nofun, fun _ => ⟨request, asked, makes, rfl⟩⟩
  · rw [kept] at last
    exact ⟨held, held, _, before, last, replies, ⟨held.lower_ne_nan, held.upper_ne_nan,
      held.not_upper_lt_lower⟩, fun _ _ => rfl, fun changed => absurd rfl changed⟩

/-- A range that was read stays through a refused assignment and a text with its bounds out of order. -/
theorem run_on_fields_of_refused_steps :
    (∀ s ∈ [.ask (.read "10:20"), .assign "start" (.int 30)] ++ [Step.ask (.read "9:8")], s.OnFields) ∧
      (Spec.parse "9:8").toBool = false ∧
      ∃ held, (Current.range .nonnegative).afterSteps [.ask (.read "10:20"), .assign "start" (.int 30)] =
        .range held ∧
        (Current.range .nonnegative).afterSteps
          ([.ask (.read "10:20"), .assign "start" (.int 30)] ++ [.ask (.read "9:8")]) = .range held := by
  have proper : ∀ s ∈ [.ask (.read "10:20"), .assign "start" (.int 30)] ++ [Step.ask (.read "9:8")],
    s.OnFields := by
    decide
  have refused : (Spec.parse "9:8").toBool = false := by decide +kernel
  refine ⟨proper, refused, ?_⟩
  obtain ⟨held, now, reply, before, after, -, -, -, changed⟩ := run_on_fields _ _ proper
  refine ⟨held, before, ?_⟩
  rw [after]
  by_contra different
  obtain ⟨request, same, makes, -⟩ := changed fun equal => different (congrArg Current.range equal)
  cases same
  cases makes with
  | read accepted =>
    rw [accepted] at refused
    cases refused

end Current

end AlertRange

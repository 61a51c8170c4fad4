import Mathlib
import AlertRange.Log.Setup

namespace AlertRange

/-! ### Names of loggers -/

namespace LoggerName

/-- A name with a dot and more behind it, the first behind it no other dot. -/
def Below (top name : List Char) : Prop :=
  ∃ rest, name = top ++ '.' :: rest ∧ rest.head? ≠ some '.'

theorem above?_prefix {name upper : List Char} (found : above? name = some upper) : upper ++ ['.'] <+: name := by
  unfold above? at found
  split at found
  · next dot c rest dropped =>
    cases found
    have isDot : dot = '.' := by
      have first := List.head?_dropWhile_not (· != '.') name.reverse
      rw [dropped] at first
      simpa using first
    have suffix : dot :: c :: rest <:+ name.reverse := dropped ▸ List.dropWhile_suffix (· != '.')
    rw [isDot, ← List.reverse_prefix, List.reverse_reverse, List.reverse_cons] at suffix
    exact suffix
  · cases found

theorem prefix_of_mem_ancestors {name upper : List Char} (member : upper ∈ ancestors name) :
    upper ++ ['.'] <+: name := by
  fun_induction ancestors name with
  | case1 => cases member
  | case2 name nearest found ih =>
    have first := above?_prefix found
    rcases List.mem_cons.mp member with rfl | higher
    · exact first
    · have shorter : nearest.dropLast <+: name :=
        (List.dropLast_prefix nearest).trans ((List.prefix_append _ _).trans first)
      exact (ih higher).trans shorter

theorem prefix_of_isUnder {known : List (List Char)} {top name : List Char}
    (under : isUnder known top name = true) :
    name = top ∨ top ++ ['.'] <+: name := by
  fun_induction isUnder known top name with
  | case1 name ih =>
    rcases Bool.or_eq_true_iff.mp under with same | higher
    · exact Or.inl (eq_of_beq same)
    · split at higher
      · next upper found =>
        have begins := prefix_of_mem_ancestors (List.mem_of_find?_eq_some found)
        rcases ih upper found higher with rfl | deeper
        · exact Or.inr begins
        · exact Or.inr (deeper.trans ((List.prefix_append _ _).trans begins))
      · cases higher

theorem ancestors_of_above? {name upper : List Char} (found : above? name = some upper) :
    ancestors name = upper :: ancestors upper.dropLast := by
  rw [ancestors]
  split
  · next none => rw [found] at none; cases none
  · next some => rw [found] at some; cases some; rfl

theorem exists_last_dot {name : List Char} (dotted : '.' ∈ name) :
    ∃ part tail, name = part ++ '.' :: tail ∧ '.' ∉ tail := by
  obtain ⟨tail, part, split, noDot⟩ := List.eq_append_cons_of_mem (List.mem_reverse.mpr dotted)
  refine ⟨part.reverse, tail.reverse, ?_, by simpa using noDot⟩
  rw [← List.reverse_inj, split]
  simp

variable {top : List Char} (nonempty : top ≠ [])

include nonempty

/-- From a name below another the search upwards ends there or at a known name in between. -/
theorem find?_ancestors (stops : List Char → Bool) (last : stops top = true) {name : List Char}
    (below : Below top name) :
    ∃ upper, (ancestors name).find? stops = some upper ∧ (upper = top ∨ Below top upper) := by
  obtain ⟨rest, rfl, single⟩ := below
  induction length : rest.length using Nat.strong_induction_on generalizing rest with
  | _ size ih =>
    by_cases dotted : '.' ∈ rest
    · obtain ⟨part, tail, rfl, noDot⟩ := exists_last_dot dotted
      have filled : part ≠ [] := by
        rintro rfl
        exact single rfl
      rw [List.head?_append_of_ne_nil _ filled] at single
      have upper : above? (top ++ '.' :: (part ++ '.' :: tail)) = some (top ++ '.' :: part) := by
        rw [show top ++ '.' :: (part ++ '.' :: tail) = (top ++ '.' :: part) ++ '.' :: tail by simp]
        exact above?_child (by simp) noDot
      rw [ancestors_of_above? upper]
      by_cases stop : stops (top ++ '.' :: part) = true
      · rw [List.find?_cons_of_pos stop]
        exact ⟨_, rfl, Or.inr ⟨part, rfl, single⟩⟩
      · have shorter : (top ++ '.' :: part).dropLast = top ++ '.' :: part.dropLast := by
          rw [List.dropLast_append_of_ne_nil (by simp), List.dropLast_cons_of_ne_nil filled]
        have still : part.dropLast.head? ≠ some '.' := by
          rw [List.head?_dropLast]
          split
          · exact single
          · simp
        rw [List.find?_cons_of_neg stop, shorter]
        refine ih part.dropLast.length ?_ part.dropLast still rfl
        rw [← length]
        simp
        omega
    · have found : above? (top ++ '.' :: rest) = some top := above?_child nonempty dotted
      rw [ancestors_of_above? found, List.find?_cons_of_pos last]
      exact ⟨top, rfl, Or.inl rfl⟩

theorem isUnder_of_below (known : List (List Char)) {name : List Char} (below : Below top name) :
    isUnder known top name = true := by
  -- the search may end at a known name in between, from which it starts again
  induction length : name.length using Nat.strong_induction_on generalizing name with
  | _ size ih =>
    obtain ⟨upper, found, reached⟩ :=
      find?_ancestors nonempty (fun upper => upper == top || known.contains upper) (by simp) below
    have higher : isUnder known top upper = true := by
      rcases reached with rfl | between
      · exact isUnder_self known upper
      · exact ih _ (length ▸ length_of_mem_ancestors (List.mem_of_find?_eq_some found)) between rfl
    rw [isUnder, Bool.or_eq_true_iff]
    refine Or.inr ?_
    split
    · next other also =>
      rw [found] at also
      cases also
      exact higher
    · next missing =>
      rw [found] at missing
      cases missing

end LoggerName

theorem LogForm.stop?_of_writable {form : LogForm} {time : String} {event : LogEvent}
    (writable : ∀ field ∈ form.shownFields time event, field.2.Writable) : form.stop? time event = none := by
  have clear : form.fault? time event = none := List.findSome?_eq_none_iff.mpr writable
  simp only [stop?, clear]

/-! ### Calls that are accepted -/

/-- A call whose template fits its arguments and whose fields are not refused, and its event. -/
structure LogCall.Accepted (call : LogCall) (event : LogEvent) : Prop where
  fits : call.event = .ok event
  free : call.error? = none

namespace LogSetup

variable {setup : LogSetup} {known : Known} {time : String}

section Calls

variable {call : LogCall} {event : LogEvent}

theorem event_of_call (made : call.event = .ok event) :
    event.logger = call.logger ∧ event.severity = call.method.level := by
  unfold LogCall.event at made
  cases message : call.message with
  | error fault =>
    rw [message] at made
    cases made
  | ok text =>
    rw [message] at made
    cases made
    exact ⟨rfl, rfl⟩

theorem call_of_accepted (accepted : call.Accepted event) :
    setup.call known time call =
      if setup.passes known event then setup.settle time (.ok event) else .ok "" := by
  obtain ⟨named, graded⟩ := event_of_call accepted.fits
  simp only [LogSetup.call, accepted.free, accepted.fits, passes, named, graded]

end Calls

/-- The events that pass. Whether one does depends on the names known before it, which grow from event to
event. -/
def passing (setup : LogSetup) (known : Known) : List LogEvent → List LogEvent
  | [] => []
  | event :: rest =>
    let known := event.logger.toList :: known
    if setup.passes known event then event :: setup.passing known rest else setup.passing known rest

/-- What the passing events write, unless the first that there is no room for ends the calls. -/
theorem callAll_of_accepted {calls : List LogCall} {events : List LogEvent}
    (accepted : List.Forall₂ LogCall.Accepted calls events) :
    setup.callAll known time calls =
      match (setup.passing known events).findSome? (setup.stop? time) with
      | some error => .error error
      | none => .ok (String.join ((setup.passing known events).map (setup.lines time))) := by
  induction accepted generalizing known with
  | nil => rfl
  | @cons call event calls events first _ ih =>
    rw [callAll, call_of_accepted first, ih, passing, ← (event_of_call first.fits).1]
    by_cases passed : setup.passes (event.logger.toList :: known) event = true
    · simp only [if_pos passed, settle, List.findSome?_cons]
      cases setup.stop? time event with
      | some error => rfl
      | none =>
        rw [List.map_cons, String.join_cons]
        cases (setup.passing (event.logger.toList :: known) events).findSome? (setup.stop? time) <;> rfl
    · simp only [if_neg passed]
      cases (setup.passing (event.logger.toList :: known) events).findSome? (setup.stop? time) with
      | some error => rfl
      | none => exact congrArg Except.ok (String.empty_append)

/-- The events that pass are all that surely do, and only some that may. -/
theorem passing_between (setup : LogSetup) (known : Known) (may must : LogEvent → Bool)
    (upper : ∀ known event, setup.passes known event = true → may event = true)
    (lower : ∀ known event, must event = true → setup.passes known event = true) (events : List LogEvent) :
    (setup.passing known events).Sublist (events.filter may) ∧
      (events.filter must).Sublist (setup.passing known events) := by
  induction events generalizing known with
  | nil => exact ⟨.slnil, .slnil⟩
  | cons event events ih =>
    obtain ⟨within, without⟩ := ih (event.logger.toList :: known)
    rw [passing]
    by_cases passed : setup.passes (event.logger.toList :: known) event = true
    · rw [if_pos passed]
      constructor
      · rw [List.filter_cons_of_pos (upper _ _ passed)]
        exact within.cons_cons event
      · by_cases sure : must event = true
        · rw [List.filter_cons_of_pos sure]
          exact without.cons_cons event
        · rw [List.filter_cons_of_neg sure]
          exact without.cons event
    · rw [if_neg passed]
      constructor
      · exact within.trans ((List.sublist_cons_self event events).filter may)
      · rw [List.filter_cons_of_neg fun sure => passed (lower _ _ sure)]
        exact without

/-! ### Levels after a setup -/

def Own (logger : String) : Prop :=
  logger = ownName ∨ (ownName ++ ".").toList <+: logger.toList

/-- A name that goes on with two dots. Of these only one is seen, so it need not stand below the program's name. -/
def Doubled (logger : String) : Prop :=
  (ownName ++ "..").toList <+: logger.toList

instance (logger : String) : Decidable (Own logger) :=
  inferInstanceAs (Decidable (logger = ownName ∨ (ownName ++ ".").toList <+: logger.toList))

instance (logger : String) : Decidable (Doubled logger) :=
  inferInstanceAs (Decidable ((ownName ++ "..").toList <+: logger.toList))

def ownSeverity (verbose : Bool) : Severity :=
  if verbose then .debug else .warning

def nameLevel (verbose : Bool) (logger : String) : Severity :=
  if Own logger then ownSeverity verbose else .warning

theorem own_of_isUnder {logger : String}
    (under : LoggerName.isUnder known ownName.toList logger.toList = true) : Own logger := by
  rcases LoggerName.prefix_of_isUnder under with same | begins
  · exact Or.inl (String.toList_inj.mp same)
  · exact Or.inr begins

theorem isUnder_of_own {logger : String} (own : Own logger) (single : ¬ Doubled logger) :
    LoggerName.isUnder known ownName.toList logger.toList = true := by
  rcases own with rfl | ⟨rest, split⟩
  · exact LoggerName.isUnder_self known _
  · refine LoggerName.isUnder_of_below (by decide) known ⟨rest, ?_, ?_⟩
    · rw [← split]
      simp
    · intro dot
      obtain ⟨more, rfl⟩ := List.head?_eq_some_iff.mp dot
      refine single ⟨more, ?_⟩
      rw [← split]
      simp

section Configured

variable {before : LogSetup} {verbose json : Bool} {logger : String} {event : LogEvent}

theorem level_configure :
    (before.configure verbose json).level known logger =
      if LoggerName.isUnder known ownName.toList logger.toList then ownSeverity verbose else .warning :=
  rfl

theorem ownSeverity_le : ownSeverity verbose ≤ .warning := by
  cases verbose <;> decide

theorem level_configure_le : (before.configure verbose json).level known logger ≤ .warning := by
  rw [level_configure]
  split
  · exact ownSeverity_le
  · exact Nat.le_refl _

theorem nameLevel_le_of_passes (passes : (before.configure verbose json).passes known event = true) :
    nameLevel verbose event.logger ≤ event.severity := by
  have reached := of_decide_eq_true passes
  rw [level_configure] at reached
  unfold nameLevel
  split at reached
  · next under => rwa [if_pos (own_of_isUnder under)]
  · split
    · exact Nat.le_trans ownSeverity_le reached
    · exact reached

theorem passes_of_nameLevel_le (reached : nameLevel verbose event.logger ≤ event.severity)
    (doubled : Doubled event.logger → .warning ≤ event.severity) :
    (before.configure verbose json).passes known event = true := by
  refine decide_eq_true ?_
  by_cases grave : Severity.warning ≤ event.severity
  · exact Nat.le_trans level_configure_le grave
  · have single := mt doubled grave
    have own : Own event.logger := by
      by_contra other
      rw [nameLevel, if_neg other] at reached
      exact grave reached
    rw [nameLevel, if_pos own] at reached
    rwa [level_configure, if_pos (isUnder_of_own own single)]

theorem lines_configure (event : LogEvent) :
    (before.configure verbose json).lines time event =
      (if json then LogForm.json else .console).written time event := by
  simp [lines, configure]

theorem stop?_configure (event : LogEvent) :
    (before.configure verbose json).stop? time event =
      (if json then LogForm.json else .console).stop? time event := by
  simp [stop?, configure]

/-- Only the last setup counts. -/
theorem foldl_configure (earlier : List (Bool × Bool)) :
    (earlier ++ [(verbose, json)]).foldl (fun setup config => setup.configure config.1 config.2) before =
      initial.configure verbose json := by
  rw [List.foldl_append]
  rfl

theorem passing_configure (known : Known) (events : List LogEvent) :
    let shown := (before.configure verbose json).passing known events
    let reaching := events.filter fun event => nameLevel verbose event.logger ≤ event.severity
    shown.Sublist reaching ∧
      (reaching.filter fun event => ¬ Doubled event.logger ∨ .warning ≤ event.severity).Sublist shown := by
  intro shown reaching
  let may (event : LogEvent) : Bool := nameLevel verbose event.logger ≤ event.severity
  let sure (event : LogEvent) : Bool := ¬ Doubled event.logger ∨ .warning ≤ event.severity
  have upper (known : Known) (event : LogEvent)
    (passes : (before.configure verbose json).passes known event = true) :
      may event = true :=
    decide_eq_true (nameLevel_le_of_passes passes)
  have lower (known : Known) (event : LogEvent) (both : (sure event && may event) = true) :
      (before.configure verbose json).passes known event = true := by
    simp only [sure, may, Bool.and_eq_true, decide_eq_true_eq] at both
    exact passes_of_nameLevel_le both.2 fun doubled => both.1.resolve_left (not_not_intro doubled)
  obtain ⟨within, without⟩ := passing_between _ known may _ upper lower events
  rw [← List.filter_filter] at without
  exact ⟨within, without⟩

end Configured

/-! ### Results -/

/-- A log that is set up once or more, and calls that are accepted. The last setup is all that counts: there
is one handler, in its form, and the levels are its own. What is written is a line for each of some of the
events, in their order and once each, but for those with a field that cannot be written. They are the events
that reach the level their logger has by its name; where a name goes on with two dots an event below a warning
may be missing. Only a field that there is no room for ends the calls. -/
theorem callAll_of_configured (before : LogSetup) (earlier : List (Bool × Bool)) (verbose json : Bool)
    (known : Known) (time : String) {calls : List LogCall} {events : List LogEvent}
    (accepted : List.Forall₂ LogCall.Accepted calls events) :
    let setup := (earlier ++ [(verbose, json)]).foldl (fun setup config =>
      setup.configure config.1 config.2) before
    let form := if json then LogForm.json else .console
    let reaching := events.filter fun event => nameLevel verbose event.logger ≤ event.severity
    setup = initial.configure verbose json ∧ setup.handlers = [form] ∧ setup.rootLevel = .warning ∧
      setup.ownLevel = some (if verbose then .debug else .warning) ∧
      ∃ shown : List LogEvent,
        ((∀ event ∈ shown, form.stop? time event = none) →
          setup.callAll known time calls = .ok (String.join (shown.map (form.written time)))) ∧
        (∀ error, shown.findSome? (form.stop? time) = some error →
          setup.callAll known time calls = .error error) ∧
        (∀ event ∈ shown, (∀ field ∈ form.shownFields time event, field.2.Writable) →
          form.stop? time event = none ∧ form.written time event = form.line time event ++ "\n") ∧
        shown.Sublist reaching ∧
        (reaching.filter fun event => ¬ Doubled event.logger ∨ .warning ≤ event.severity).Sublist shown ∧
        ((∀ event ∈ events, ¬ Doubled event.logger) → shown = reaching) := by
  intro setup form reaching
  have last : setup = initial.configure verbose json := foldl_configure earlier
  refine ⟨last, by rw [last]; rfl, by rw [last]; rfl, by rw [last]; rfl, ?_⟩
  obtain ⟨within, without⟩ := @passing_configure initial verbose json known events
  have called : setup.callAll known time calls = _ := callAll_of_accepted accepted
  rw [last, funext stop?_configure, funext lines_configure] at called
  refine ⟨_, fun room => ?_, fun error stopped => ?_,
    fun event _ writable => ⟨LogForm.stop?_of_writable writable, if_pos writable⟩, within, without, ?_⟩
  · rw [last, called, List.findSome?_eq_none_iff.mpr room]
  · rw [last, called, stopped]
  · intro single
    have all : reaching.filter (fun event => ¬ Doubled event.logger ∨ .warning ≤ event.severity) = reaching := by
      refine List.filter_eq_self.mpr fun event member => decide_eq_true (Or.inl ?_)
      exact single event (List.mem_of_mem_filter member)
    rw [all] at without
    exact within.antisymm without

theorem callAll_of_configured_twice :
    let calls : List LogCall := [⟨.named .debug, "nagrangex", "a", [], [], .fields⟩,
      ⟨.named .debug, "nagrange.a", "%s", [.text "b"], [("n", .null)], .message⟩]
    let event : LogEvent := ⟨.debug, "nagrange.a", "b", [("n", .null)], .message, false⟩
    ((initial.configure false false).configure true true).callAll [] "12:00" calls =
      .ok (event.jsonLine "12:00" ++ "\n") := by
  intro calls event
  have accepted : List.Forall₂ LogCall.Accepted calls [⟨.debug, "nagrangex", "a", [], .fields, false⟩, event] :=
    .cons ⟨rfl, rfl⟩ (.cons ⟨by cbv, rfl⟩ .nil)
  obtain ⟨-, -, -, -, shown, text, -, lines, -, -, same⟩ :=
    callAll_of_configured initial [(false, false)] true true [] "12:00" accepted
  have other : ¬ nameLevel true "nagrangex" ≤ .debug := by decide
  have own : nameLevel true event.logger ≤ event.severity := by decide
  have reaching : shown = [event] := by
    rw [same (by decide), List.filter_cons_of_neg (by simpa using other),
      List.filter_cons_of_pos (by simpa using own)]
    rfl
  subst reaching
  obtain ⟨room, written⟩ := lines event (List.mem_singleton_self event) (by decide)
  have called := text (List.forall_mem_singleton.mpr room)
  rw [List.map_singleton, written] at called
  exact called

/-- A debug event of a logger whose name goes on with two dots is not written in a verbose run. -/
theorem callAll_of_doubled :
    let event : LogEvent := ⟨.debug, "nagrange..x", "e", [], .message, false⟩
    let calls : List LogCall := [⟨.named .debug, "nagrange..x", "e", [], [], .message⟩]
    List.Forall₂ LogCall.Accepted calls [event] ∧ Own event.logger ∧ nameLevel true event.logger ≤ event.severity ∧
      (initial.configure true true).callAll [] "<TIME>" calls = .ok "" := by
  intro event calls
  have accepted : List.Forall₂ LogCall.Accepted calls [event] := .cons ⟨by cbv, rfl⟩ .nil
  have unpassed : (initial.configure true true).passes [event.logger.toList] event = false := by decide +kernel
  refine ⟨accepted, by decide, by decide, ?_⟩
  rw [callAll_of_accepted accepted, passing, unpassed]
  rfl

end LogSetup

end AlertRange

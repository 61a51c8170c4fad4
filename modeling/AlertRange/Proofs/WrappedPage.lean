import AlertRange.Proofs.FormattedReport
import AlertRange.Proofs.WrappedText

namespace AlertRange

namespace Text

def visible (text : String) : List Char :=
  ink (printed text.toList)

/-- A text that is anchored as it is printed. -/
def Wrappable (text : String) : Prop :=
  Anchored (printed text.toList)

instance : DecidablePred Wrappable :=
  fun text => inferInstanceAs (Decidable (Anchored (printed text.toList)))

variable {a b : String}

theorem visible_append (a b : String) : visible (a ++ b) = visible a ++ visible b := by
  rw [visible, printed_append, ink_append]
  rfl

theorem Wrappable.append (first : Wrappable a) (second : Wrappable b) : Wrappable (a ++ b) := by
  rw [Wrappable, printed_append]
  exact Anchored.append first second

end Text

namespace Screen

open Text (Styled Wrappable endsInJoiner ink printed visible)
open Text.Styled (plain styled)

/-- What is shown of texts: lines of a width at most, and all that is seen of the texts. -/
structure Complete (width : Nat) (texts : List String) (shown : List Char) : Prop where
  narrow : ∀ line ∈ List.splitOn '\n' shown, Text.cells line ≤ width
  seen : ink shown = texts.flatMap visible

structure Conveys (texts : List String) (content : Styled) : Prop where
  settable : Settable content
  seen : ink content.chars = texts.flatMap visible

theorem settable_plain {text : String} (wrappable : Wrappable text) : Settable (plain text) :=
  ⟨wrappable, Styled.smooth_plain text, by simp [plain]⟩

theorem settable_styled {style text : String} (readable : Styled.Readable style) (wrappable : Wrappable text) :
    Settable (styled style text) := by
  refine ⟨wrappable, Styled.smooth_styled style text, fun span member => ?_⟩
  rw [List.mem_singleton.mp member]
  exact readable

theorem Settable.append {first second : Styled} (settable : Settable first) (settable' : Settable second)
    (closed : endsInJoiner first.chars = false) : Settable (first ++ second) where
  anchored := settable.anchored.append settable'.anchored
  smooth := settable.smooth.append settable'.smooth closed
  readable span member := by
    rcases List.mem_append.mp member with old | new
    · exact settable.readable span old
    · obtain ⟨origin, known, rfl⟩ := List.mem_map.mp new
      exact settable'.readable origin known

theorem complete_of_shows {ε : Type} {width : Nat} {contents : List (List String × Styled)}
    {f : List String × Styled → Except ε (List Char)} (conveys : ∀ content ∈ contents, Conveys content.1 content.2)
    (shows : ∀ content ∈ contents, Yields (Shows width content.2.chars) (f content)) :
    Yields (fun shown => Complete width (contents.flatMap Prod.fst) shown.flatten) (contents.mapM f) := by
  apply (Yields.mapM_forall₂ shows).mono
  intro shown all
  have whole := shows_all (List.forall₂_map_left_iff.mpr all)
  refine ⟨whole.narrow, ?_⟩
  rw [whole.ink_eq, Text.ink_flatten, List.flatMap_map, List.flatMap_assoc]
  exact List.flatMap_congr fun content member => (conveys content member).seen

theorem Complete.trimEnd {width : Nat} {texts : List String} {shown : List Char}
    (complete : Complete width texts shown) :
    Complete width texts (Text.trimEnd (· == '\n') shown) where
  narrow line member := complete.narrow line (Text.mem_splitOn_of_trimEnd member)
  seen := by
    rw [Text.ink_trimEnd, complete.seen]
    intro c ended
    rw [beq_iff_eq.mp ended]
    decide

theorem render_complete {width : Nat} (columns : 2 ≤ width) {contents : List (List String × Styled)}
    (conveys : ∀ content ∈ contents, Conveys content.1 content.2) :
    Yields (Complete width (contents.flatMap Prod.fst)) (render width
      (contents.map fun content => .text content.2)) := by
  have made := complete_of_shows conveys fun content member =>
    render_of_settable columns (conveys content member).settable
  rw [render, if_neg (by omega), List.mapM_map]
  exact made.map fun shown complete => complete

end Screen

namespace Report

open Screen (Block Complete Settable Conveys settable_plain settable_styled)
open Text (Styled Wrappable endsInJoiner printed visible visible_append)
open Text.Styled (plain styled)

def toldDetail (verbose : Bool) : Option Failure → List String
  | some failure =>
    if verbose && !failure.detail.isEmpty then
      "detail:" :: failure.detail.flatMap fun pair => [pair.1, ":", pair.2.display]
    else []
  | none => []

def detailBlocks (verbose : Bool) : Option Failure → List Block
  | some failure =>
    if verbose && !failure.detail.isEmpty then
      .text (styled "dim" "  detail:") ::
        failure.detail.map fun pair => .text (plain ("    " ++ pair.1 ++ ": " ++ pair.2.display))
    else []
  | none => []

def detailFields (verbose : Bool) : Option Failure → Value.Fields
  | some failure => if verbose then failure.detail else []
  | none => []

/-- The fields that the page of a report tells, if it has neither a range nor a check. -/
def toldFields (verbose : Bool) (report : Report) : Value.Fields :=
  if report.ok then report.data else detailFields verbose report.failure

/-- The texts that the page of a report tells one after another, if it has neither a range nor a check. -/
def toldTexts (verbose : Bool) (report : Report) : List String :=
  if report.ok then "OK" :: report.op :: report.data.flatMap fun pair => [pair.1, ":", plainTextOf pair.2]
  else ["ERROR", report.op, "—", report.failureMessage] ++ toldDetail verbose report.failure

variable {op name text : String}

theorem closed_of_literal (before : String) {last : String} (some : printed last.toList ≠ [])
    (closed : endsInJoiner (printed last.toList) = false) :
    endsInJoiner (printed (before ++ last).toList) = false := by
  rwa [Text.printed_append, Text.endsInJoiner_append some]

theorem conveys_field (name' : Wrappable name) (text' : Wrappable text) :
    Conveys [name, ":", text] (keyText name ++ plain text) := by
  have key : Wrappable ("  " ++ name ++ ": ") := (Text.Wrappable.append (by decide) name').append (by decide)
  have blank : visible "  " = [] := by decide
  have mark : visible ": " = visible ":" := by decide
  constructor
  · exact (settable_styled (readable_of_mem (by decide)) key).append (settable_plain text')
      (closed_of_literal _ (by decide) (by decide))
  · change Text.ink (printed ("  " ++ name ++ ": ").toList ++ printed text.toList) = _
    rw [Text.ink_append]
    change visible ("  " ++ name ++ ": ") ++ visible text = _
    simp [visible_append, blank, mark]

theorem conveys_entry (name' : Wrappable name) (text' : Wrappable text) :
    Conveys [name, ":", text] (plain ("    " ++ name ++ ": " ++ text)) := by
  have blank : visible "    " = [] := by decide
  have mark : visible ": " = visible ":" := by decide
  refine ⟨settable_plain (((Text.Wrappable.append (by decide) name').append (by decide)).append text'), ?_⟩
  change visible ("    " ++ name ++ ": " ++ text) = _
  simp [visible_append, blank, mark]

theorem conveys_heading : Conveys ["detail:"] (styled "dim" "  detail:") where
  settable := settable_styled (readable_of_mem (by decide)) (by decide)
  seen := by decide

theorem settable_opText (op' : Wrappable op) : Settable (styled "range.op" ("  " ++ op)) :=
  settable_styled (readable_of_mem (by decide)) (Text.Wrappable.append (by decide) op')

theorem conveys_status (op' : Wrappable op) :
    Conveys ["OK", op] (styled "range.ok" "OK" ++ plain " " ++ styled "range.op" ("  " ++ op)) := by
  have status : Settable (styled "range.ok" "OK") :=
    settable_styled (readable_of_mem (by decide)) (by decide)
  have blank : visible " " = [] ∧ visible "  " = [] := by decide
  constructor
  · exact (status.append (settable_plain (by decide)) (by decide)).append (settable_opText op') (by decide)
  · change Text.ink (printed "OK".toList ++ printed " ".toList ++ printed ("  " ++ op).toList) = _
    rw [Text.ink_append, Text.ink_append]
    change visible "OK" ++ visible " " ++ visible ("  " ++ op) = _
    simp [visible_append, blank]

theorem conveys_failure (op' : Wrappable op) (closed : endsInJoiner (printed op.toList) = false)
    (text' : Wrappable text) :
    Conveys ["ERROR", op, "—", text]
      (styled "range.error" "ERROR" ++ styled "range.op" ("  " ++ op) ++ plain (" — " ++ text)) := by
  have status : Settable (styled "range.error" "ERROR") :=
    settable_styled (readable_of_mem (by decide)) (by decide)
  have blank : visible "  " = [] := by decide
  have dash : visible " — " = visible "—" := by decide
  have front : endsInJoiner (printed "ERROR".toList ++ printed ("  " ++ op).toList) = false := by
    rw [Text.printed_append, ← List.append_assoc]
    by_cases none : printed op.toList = []
    · rw [none]
      decide
    · rwa [Text.endsInJoiner_append none]
  constructor
  · exact (status.append (settable_opText op') (by decide)).append
      (settable_plain (Text.Wrappable.append (by decide +kernel) text')) front
  · change Text.ink (printed "ERROR".toList ++ printed ("  " ++ op).toList ++ printed (" — " ++ text).toList) = _
    rw [Text.ink_append, Text.ink_append]
    change visible "ERROR" ++ visible ("  " ++ op) ++ visible (" — " ++ text) = _
    simp [visible_append, blank, dash]

structure Contents (blocks : List Block) (told : List String) (contents : List (List String × Styled)) : Prop where
  blocks : blocks = contents.map fun content => .text content.2
  conveys : ∀ content ∈ contents, Conveys content.1 content.2
  told : contents.flatMap Prod.fst = told

theorem Contents.cons {blocks : List Block} {told texts : List String} {contents : List (List String × Styled)}
    {content : Styled} (rest : Contents blocks told contents) (first : Conveys texts content) :
    Contents (.text content :: blocks) (texts ++ told) ((texts, content) :: contents) where
  blocks := by rw [rest.blocks, List.map_cons]
  conveys := List.forall_mem_cons.mpr ⟨first, rest.conveys⟩
  told := by rw [List.flatMap_cons, rest.told]

theorem contents_map {block : String → String → Styled}
    (conveys : ∀ {name text : String}, Wrappable name → Wrappable text →
      Conveys [name, ":", text] (block name text))
    (shown : Value → String) {pairs : Value.Fields}
    (wrappable : ∀ text ∈ pairs.flatMap fun pair => [pair.1, ":", shown pair.2], Wrappable text) :
    Contents (pairs.map fun pair => .text (block pair.1 (shown pair.2)))
      (pairs.flatMap fun pair => [pair.1, ":", shown pair.2])
      (pairs.map fun pair => ([pair.1, ":", shown pair.2], block pair.1 (shown pair.2))) where
  blocks := by simp
  conveys content member := by
    obtain ⟨pair, inside, rfl⟩ := List.mem_map.mp member
    have each : ∀ text ∈ [pair.1, ":", shown pair.2], Wrappable text :=
      fun text known => wrappable text (List.mem_flatMap.mpr ⟨pair, inside, known⟩)
    exact conveys (each _ (by simp)) (each _ (by simp))
  told := by rw [List.flatMap_map]

theorem map_part_of_writable {part : String × Value → Part} {block : String × Value → Block}
    (made : ∀ {pair : String × Value}, pair.2.Writable → part pair = .ok (block pair)) {pairs : Value.Fields}
    (writable : ∀ pair ∈ pairs, pair.2.Writable) : pairs.map part = (pairs.map block).map .ok := by
  rw [List.map_map]
  exact List.map_congr_left fun pair member => made (writable pair member)

theorem detailParts_of_writable {verbose : Bool} {failure : Option Failure}
    (writable : ∀ pair ∈ detailFields verbose failure, pair.2.Writable) :
    detailParts verbose failure = (detailBlocks verbose failure).map .ok := by
  cases failure with
  | none => rfl
  | some failure =>
    simp only [detailParts, detailBlocks]
    split
    · next shown =>
      rw [detailFields, if_pos (Bool.and_eq_true_iff.mp shown).1] at writable
      rw [map_part_of_writable entryPart_of_writable writable, List.map_cons]
    · rfl

theorem exists_contents_of_detail {verbose : Bool} {failure : Option Failure}
    (wrappable : ∀ text ∈ toldDetail verbose failure, Wrappable text) :
    ∃ contents, Contents (detailBlocks verbose failure) (toldDetail verbose failure) contents := by
  have nothing : ∃ contents, Contents [] [] contents := ⟨[], rfl, by simp, rfl⟩
  cases failure with
  | none => exact nothing
  | some failure =>
    by_cases shown : (verbose && !failure.detail.isEmpty) = true
    · simp only [toldDetail, detailBlocks, shown, if_true, List.forall_mem_cons] at wrappable ⊢
      exact ⟨_, (contents_map conveys_entry Value.display wrappable.2).cons conveys_heading⟩
    · simp only [toldDetail, detailBlocks, shown]
      exact nothing

theorem exists_contents_of_failed {verbose : Bool} {report : Report} (failed : report.ok = false)
    (wrappable : ∀ text ∈ report.toldTexts verbose, Wrappable text)
    (writable : ∀ pair ∈ report.toldFields verbose, pair.2.Writable)
    (closed : endsInJoiner (printed report.op.toList) = false) :
    ∃ blocks contents, report.parts verbose = blocks.map .ok ∧
      Contents blocks (report.toldTexts verbose) contents := by
  simp only [toldTexts, failed, Bool.false_eq_true, if_false, List.forall_mem_append,
    List.forall_mem_cons] at wrappable ⊢
  obtain ⟨⟨-, op, -, text, -⟩, detail⟩ := wrappable
  have fields : report.toldFields verbose = detailFields verbose report.failure := by simp [toldFields, failed]
  have made := detailParts_of_writable (fields ▸ writable)
  obtain ⟨contents, rest⟩ := exists_contents_of_detail detail
  refine ⟨_, _, ?_, rest.cons (conveys_failure op closed text)⟩
  simp [parts, failed, failureParts, failureBlock, made]

theorem exists_contents_of_ok {verbose : Bool} {report : Report} (good : report.ok = true)
    (other : report.op ≠ parseOp ∧ report.op ≠ checkOp) (wrappable : ∀ text ∈ report.toldTexts verbose,
      Wrappable text)
    (writable : ∀ pair ∈ report.toldFields verbose, pair.2.Writable) :
    ∃ blocks contents, report.parts verbose = blocks.map .ok ∧
      Contents blocks (report.toldTexts verbose) contents := by
  simp only [toldTexts, good, if_true, List.forall_mem_cons] at wrappable ⊢
  obtain ⟨-, op, fields⟩ := wrappable
  have data : report.toldFields verbose = report.data := by simp [toldFields, good]
  have made := map_part_of_writable plainPart_of_writable (data ▸ writable)
  refine ⟨_, _, ?_, (contents_map conveys_field plainTextOf fields).cons (conveys_status op)⟩
  simp [parts, good, successParts, other, statusBlock, made, fieldBlock]

/-! ### Pages -/

theorem page_complete {verbose : Bool} {report : Report} {blocks : List Block} {told : List String}
    {contents : List (List String × Styled)} (parts : report.parts verbose = blocks.map .ok)
    (known : Contents blocks told contents) :
    Yields (fun page => Complete pageWidth told page.toList) (report.page verbose) := by
  have columns : 2 ≤ pageWidth := by decide
  have made := Screen.complete_of_shows known.conveys fun content member =>
    (Screen.render_of_settable columns (known.conveys content member).settable).mapError (f := FormError.screen)
  unfold page
  rw [parts, known.blocks, List.mapM_map, List.mapM_map]
  apply made.bind
  intro shown complete
  apply Yields.ok
  rw [String.toList_ofList, ← known.told]
  exact complete.trimEnd

theorem guarded_of_not_writable {value : Value} (unwritable : ¬ value.Writable) (f : TextFault → FormError)
    (text : String) : ∃ error, (value.guarded text).mapError f = .error error := by
  obtain ⟨fault, stopped⟩ := Value.exists_guarded_of_not_writable unwritable
  exact ⟨f fault, by rw [stopped]; rfl⟩

theorem plainText_of_not_writable {value : Value} (unwritable : ¬ value.Writable) :
    ∃ error, plainText value = .error error := by
  cases value with
  | list items => exact guarded_of_not_writable unwritable _ _
  | record fields => exact guarded_of_not_writable unwritable _ _
  | _ => exact guarded_of_not_writable unwritable .unwritten _

/-- One field that cannot be written, and there is no page. -/
theorem page_of_not_writable {verbose : Bool} {report : Report}
    (other : report.ok = true → report.op ≠ parseOp ∧ report.op ≠ checkOp) {pair : String × Value}
    (member : pair ∈ report.toldFields verbose) (unwritable : ¬ pair.2.Writable) :
    (report.page verbose).isOk = false := by
  cases good : report.ok with
  | true =>
    obtain ⟨error, stopped⟩ := plainText_of_not_writable unwritable
    have inside : plainPart pair ∈ report.parts verbose := by
      rw [toldFields, if_pos good] at member
      simp only [parts, good, if_true, successParts, other good, if_false]
      exact List.mem_cons_of_mem _ (List.mem_map_of_mem member)
    refine page_of_unprinted inside ?_
    rw [plainPart, stopped]
    rfl
  | false =>
    obtain ⟨error, stopped⟩ := guarded_of_not_writable unwritable .unwritten pair.2.display
    have inside : entryPart pair ∈ report.parts verbose := by
      simp only [toldFields, good, Bool.false_eq_true, if_false] at member
      simp only [parts, good, Bool.false_eq_true, if_false, failureParts]
      cases known : report.failure with
      | none =>
        rw [known] at member
        cases member
      | some failure =>
        rw [known, detailFields] at member
        split at member
        · next detailed =>
          have some : failure.detail.isEmpty = false := List.isEmpty_eq_false_iff.mpr (List.ne_nil_of_mem member)
          simp only [detailParts, detailed, some, Bool.not_false, Bool.and_true, if_true]
          exact List.mem_cons_of_mem _ (List.mem_cons_of_mem _ (List.mem_map_of_mem member))
        · cases member
    refine page_of_unprinted inside ?_
    change (printPart (shownText pair.2 >>= _)).isOk = false
    rw [shownText, Value.shown?, stopped]
    rfl

theorem readable_styleName (alert : Bool) : Styled.Readable (styleName alert) := by
  cases alert <;> exact readable_of_mem (by decide)

/-- If no joiner or selector lacks a character to act on, and no style begins behind a joiner, then the page
of a failure and of a report with neither a range nor a check, and a screen of texts, are complete: no line is
too wide, and all that is seen of the texts is on them. A page has to have all its fields written: there is
none if a number in them has too many digits, or one of them is nested too deep. -/
theorem page_and_screen_complete (verbose : Bool) (report : Report) (asked : Option Int)
    (texts : List (String × Bool)) :
    ((report.ok = true → report.op ≠ parseOp ∧ report.op ≠ checkOp) →
      (report.ok = false → endsInJoiner (printed report.op.toList) = false) →
      (∀ text ∈ report.toldTexts verbose, Wrappable text) →
      (∀ pair ∈ report.toldFields verbose, pair.2.Writable) →
      ∃ page, report.page verbose = .ok page ∧ Complete pageWidth (report.toldTexts verbose) page.toList) ∧
    ((report.ok = true → report.op ≠ parseOp ∧ report.op ≠ checkOp) →
      (∃ pair ∈ report.toldFields verbose, ¬ pair.2.Writable) → (report.page verbose).isOk = false) ∧
    (2 ≤ screenWidth asked → (∀ text ∈ texts, Wrappable text.1) →
      ∃ shown, Screen.render (screenWidth asked)
          (texts.map fun text => .text (styled (styleName text.2) text.1)) = .ok shown ∧
        Complete (screenWidth asked) (texts.map Prod.fst) shown) := by
  refine ⟨?_, ?_, ?_⟩
  · intro other closed wrappable writable
    cases good : report.ok with
    | true =>
      obtain ⟨blocks, contents, parts, known⟩ := exists_contents_of_ok good (other good) wrappable writable
      exact page_complete parts known
    | false =>
      obtain ⟨blocks, contents, parts, known⟩ := exists_contents_of_failed good wrappable writable (closed good)
      exact page_complete parts known
  · rintro other ⟨pair, member, unwritable⟩
    exact page_of_not_writable other member unwritable
  · intro columns wrappable
    let contents := texts.map fun text => ([text.1], styled (styleName text.2) text.1)
    have conveys : ∀ content ∈ contents, Conveys content.1 content.2 := by
      intro content member
      obtain ⟨text, inside, rfl⟩ := List.mem_map.mp member
      exact ⟨settable_styled (readable_styleName text.2) (wrappable text inside),
        (List.flatMap_singleton _ _).symm⟩
    have made := Screen.render_complete columns conveys
    rwa [List.map_map, List.flatMap_map, ← List.map_eq_flatMap] at made

theorem page_and_screen_complete_emoji :
    let message := "❤\ufe0f\t" ++ String.ofList (List.replicate 61 '日') ++ "\na\u0301b"
    let report := failed "👩\u200d🚀 check" ⟨"E", message, [("spec", .text "1: 2")]⟩
    (∃ page, report.page true = .ok page ∧ Complete pageWidth (report.toldTexts true) page.toList) ∧
      ∃ shown, Screen.render 3 [.text (styled "range.alert" "日 日a"),
        .text (styled "range.clear" "❤\ufe0f1")] = .ok shown ∧
        Complete 3 ["日 日a", "❤\ufe0f1"] shown :=
  have complete := page_and_screen_complete true (failed "👩\u200d🚀 check"
    ⟨"E", _, [("spec", .text "1: 2")]⟩) (some 3)
    [("日 日a", true), ("❤\ufe0f1", false)]
  ⟨complete.1 (fun good => by cases good) (fun _ => by decide +kernel) (by decide +kernel) (by decide),
    complete.2.2 (by decide) (by decide +kernel)⟩

/-- A message that joiners open need not have a page. -/
theorem page_of_opening_joiners :
    let message := String.ofList (['\u200d', '\u200d'] ++ List.replicate 60 '日' ++ ['a'])
    ((failed "p" ⟨"X", message, []⟩).page false).isOk = false := by
  intro message
  apply page_of_unprinted List.mem_cons_self
  simp only [message, failureBlock, failed, failureMessage, plain, String.toList_append, String.toList_ofList]
  decide +kernel

end Report

end AlertRange

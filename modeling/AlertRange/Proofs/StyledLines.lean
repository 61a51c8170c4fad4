import AlertRange.Proofs.AnchoredText
import AlertRange.Proofs.ShownText

namespace AlertRange

theorem Text.printed_append (a b : String) :
    printed (a ++ b).toList = printed a.toList ++ printed b.toList := by
  rw [String.toList_append, printed, List.filter_append]
  rfl

namespace Text.Styled

variable {text : Styled}

/-! ### Characters of pieces -/

theorem slices_chars {place : Nat} {pieces : List (List Char)} (whole : text.chars.drop place = pieces.flatten) :
    (text.slices place (pieces.map List.length)).map Styled.chars = pieces := by
  induction pieces generalizing place with
  | nil => rfl
  | cons piece rest ih =>
    rw [List.flatten_cons] at whole
    have later : text.chars.drop (place + piece.length) = rest.flatten := by
      rw [← List.drop_drop, whole, List.drop_left]
    rw [List.map_cons, slices, List.map_cons, ih later, slice, whole, List.take_left]

theorem cut_chars {pieces : List (List Char)} (some : pieces ≠ []) (whole : text.chars = pieces.flatten) :
    (text.cut (pieces.map List.length)).map Styled.chars = pieces := by
  unfold cut
  split
  · next short =>
    rw [List.length_map] at short
    obtain ⟨piece, rfl⟩ := List.length_eq_one_iff.mp (Nat.le_antisymm short (List.length_pos_iff.mpr some))
    simpa using whole
  · exact slices_chars (by rw [List.drop_zero, whole])

theorem lines_chars (text : Styled) : text.lines.map Styled.chars = List.splitOn '\n' text.chars := by
  have collected (pieces : List (List Char)) (found : List Styled) (place : Nat)
      (whole : text.chars.drop place = ['\n'].intercalate pieces) :
      ((pieces.foldl (fun (found : List Styled × Nat) piece =>
        (text.slice found.2 piece.length :: found.1, found.2 + piece.length + 1)) (found, place)).1.reverse).map
          Styled.chars = found.reverse.map Styled.chars ++ pieces := by
    induction pieces generalizing found place with
    | nil => simp
    | cons piece rest ih =>
      have first : (text.slice place piece.length).chars = piece := by
        cases rest with
        | nil => simp [slice, whole]
        | cons next more => simp [slice, whole]
      have later : text.chars.drop (place + piece.length + 1) = ['\n'].intercalate rest := by
        rw [← List.drop_drop, ← List.drop_drop, whole]
        cases rest with
        | nil => simp
        | cons next more => simp
      rw [List.foldl_cons, ih _ _ later]
      simp [first]
  have whole : ['\n'].intercalate (List.splitOn '\n' text.chars) = text.chars := List.intercalate_splitOn '\n'
  unfold lines
  simp only
  split
  · next short =>
    obtain ⟨piece, single⟩ := List.length_eq_one_iff.mp
      (Nat.le_antisymm short (List.length_pos_iff.mpr (List.splitOn_ne_nil '\n' text.chars)))
    rw [single] at whole ⊢
    simpa using whole.symm
  · exact collected _ [] 0 (by rw [List.drop_zero, whole])

/-! ### Smooth texts -/

/-- A place in a text, not right behind a joiner with something else to join. -/
def Parts (cs : List Char) (place : Nat) : Prop :=
  place ≤ cs.length ∧ (place < cs.length → endsInJoiner (cs.take place) = false)

def Smooth (text : Styled) : Prop :=
  ∀ span ∈ text.spans, Parts text.chars span.start ∧ Parts text.chars span.stop

theorem parts_zero (cs : List Char) : Parts cs 0 :=
  ⟨Nat.zero_le _, fun _ => rfl⟩

theorem parts_length (cs : List Char) : Parts cs cs.length :=
  ⟨Nat.le_refl _, fun shorter => absurd shorter (Nat.lt_irrefl _)⟩

theorem Parts.append {a : List Char} {place : Nat} (parts : Parts a place) (closed : endsInJoiner a = false)
    (b : List Char) : Parts (a ++ b) place := by
  refine ⟨parts.1.trans (by simp), fun _ => ?_⟩
  rw [List.take_append_of_le_length parts.1]
  rcases Nat.lt_or_eq_of_le parts.1 with inside | rfl
  · exact parts.2 inside
  · rwa [List.take_length]

theorem Parts.shift {b : List Char} {place : Nat} (parts : Parts b place) {a : List Char}
    (closed : endsInJoiner a = false) : Parts (a ++ b) (place + a.length) := by
  refine ⟨by rw [List.length_append]; have := parts.1; omega, fun inside => ?_⟩
  have later : place < b.length := by
    rw [List.length_append] at inside
    omega
  rw [Nat.add_comm, List.take_length_add_append]
  by_cases none : b.take place = []
  · rwa [none, List.append_nil]
  · rw [endsInJoiner_append none]
    exact parts.2 later

theorem Parts.slice {cs : List Char} {place : Nat} (parts : Parts cs place) {start length : Nat}
    (low : start ≤ place)
    (high : place ≤ start + length) : Parts ((cs.drop start).take length) (place - start) := by
  have known := parts.1
  have size : ((cs.drop start).take length).length = min length (cs.length - start) := by simp
  refine ⟨by omega, fun inside => ?_⟩
  have front : cs.take place = cs.take start ++ (cs.drop start).take (place - start) := by
    rw [← List.take_add, Nat.add_sub_cancel' low]
  have closed := parts.2 (by omega)
  rw [List.take_take, Nat.min_eq_left (by omega)]
  by_cases none : (cs.drop start).take (place - start) = []
  · rw [none]
    rfl
  · rwa [front, endsInJoiner_append none] at closed

theorem smooth_plain (text : String) : (plain text).Smooth := by
  simp [Smooth, plain]

theorem smooth_styled (style text : String) : (styled style text).Smooth := by
  intro span member
  obtain rfl := List.mem_singleton.mp member
  exact ⟨parts_zero _, parts_length _⟩

theorem Smooth.append (smooth : text.Smooth) {more : Styled} (smooth' : more.Smooth)
    (closed : endsInJoiner text.chars = false) : (text ++ more).Smooth := by
  intro span member
  rcases List.mem_append.mp member with old | new
  · exact ⟨(smooth span old).1.append closed _, (smooth span old).2.append closed _⟩
  · obtain ⟨origin, known, rfl⟩ := List.mem_map.mp new
    exact ⟨(smooth' origin known).1.shift closed, (smooth' origin known).2.shift closed⟩

theorem Smooth.slice (smooth : text.Smooth) (start length : Nat) : (text.slice start length).Smooth := by
  intro span member
  obtain ⟨origin, known, inside⟩ := List.mem_filterMap.mp member
  obtain ⟨first, last⟩ := smooth origin known
  unfold Span.within? at inside
  split at inside
  · next some =>
    cases inside
    have known := first.1
    have known' := last.1
    constructor
    · rcases Nat.le_total origin.start start with before | after
      · rw [show max origin.start start - start = 0 by omega]
        exact parts_zero _
      · rw [Nat.max_eq_left after]
        exact first.slice after (by omega)
    · rcases Nat.le_total origin.stop (start + length) with before | after
      · rw [Nat.min_eq_left before]
        exact last.slice (by omega) before
      · have whole : min origin.stop (start + length) - start = (text.slice start length).chars.length := by
          simp only [Styled.slice, List.length_take, List.length_drop]
          omega
        rw [whole]
        exact parts_length _
  · cases inside

/-- What is left of a text from its end: a piece of it, or one with a blank for what came next. -/
inductive Cut (cs : List Char) : List Char → Prop
  | front {kept : List Char} (front : kept <+: cs) : Cut cs kept
  | padded {kept : List Char} (front : kept <+: cs) (shorter : kept.length < cs.length) : Cut cs (kept ++ [' '])

theorem Cut.length_le {cs made : List Char} (cut : Cut cs made) : made.length ≤ cs.length := by
  cases cut with
  | front front => exact front.length_le
  | padded front shorter => simpa using shorter

theorem Cut.mem {cs made : List Char} (cut : Cut cs made) {c : Char} (member : c ∈ made) : c ∈ cs ∨ c = ' ' := by
  cases cut with
  | front front => exact Or.inl (front.subset member)
  | padded front shorter =>
    rcases List.mem_append.mp member with inside | blank
    · exact Or.inl (front.subset inside)
    · exact Or.inr (List.mem_singleton.mp blank)

theorem Cut.append {cs made : List Char} (cut : Cut cs made) (before : List Char) :
    Cut (before ++ cs) (before ++ made) := by
  cases cut with
  | front front => exact .front ((List.prefix_append_right_inj before).mpr front)
  | padded front shorter =>
    rw [← List.append_assoc]
    refine .padded ((List.prefix_append_right_inj before).mpr front) ?_
    simpa using shorter

theorem Parts.cut {cs made : List Char} {place : Nat} (parts : Parts cs place) (cut : Cut cs made)
    (known : place ≤ made.length) : Parts made place := by
  have take {kept : List Char} (front : kept <+: cs) (inside : place ≤ kept.length) :
    kept.take place = cs.take place := by
    obtain ⟨rest, rfl⟩ := front
    rw [List.take_append_of_le_length inside]
  refine ⟨known, fun inside => ?_⟩
  have room := cut.length_le
  have closed := parts.2 (by omega)
  cases cut with
  | front front => rwa [take front known]
  | padded front shorter =>
    rw [List.length_append, List.length_singleton] at inside
    rwa [List.take_append_of_le_length (by omega), take front (by omega)]

theorem Smooth.withChars (smooth : text.Smooth) {made : List Char} (cut : Cut text.chars made) :
    (text.withChars made).Smooth := by
  have room := cut.length_le
  intro span member
  unfold Styled.withChars at member
  split at member
  · obtain ⟨origin, known, cropped⟩ := List.mem_filterMap.mp member
    obtain ⟨first, last⟩ := smooth origin known
    unfold Span.crop? at cropped
    split at cropped
    · next inside =>
      cases cropped
      refine ⟨first.cut cut inside.le, ?_⟩
      rcases Nat.le_total origin.stop made.length with before | after
      · rw [Nat.min_eq_left before]
        exact last.cut cut before
      · rw [Nat.min_eq_right after]
        exact parts_length made
    · cases cropped
  · next longer =>
    obtain ⟨first, last⟩ := smooth span member
    exact ⟨first.cut cut (first.1.trans (Nat.not_lt.mp longer)),
      last.cut cut (last.1.trans (Nat.not_lt.mp longer))⟩

theorem Smooth.extend (smooth : text.Smooth) (closed : endsInJoiner text.chars = false) (n : Nat) :
    (text.extend n).Smooth := by
  intro span member
  obtain ⟨origin, known, rfl⟩ := List.mem_map.mp member
  obtain ⟨first, last⟩ := smooth origin known
  unfold Span.extend
  split
  · next reaches =>
    have whole : origin.stop + n = (text.extend n).chars.length := by
      have := last.1
      simp only [Styled.extend, List.length_append, List.length_replicate]
      omega
    refine ⟨first.append closed _, ?_⟩
    rw [whole]
    exact parts_length _
  · exact ⟨first.append closed _, last.append closed _⟩

/-! ### Runs -/

/-- Runs of which only the last one may end in a joiner. -/
def Unjoined (runs : List (List Char)) : Prop :=
  ∀ run ∈ runs.dropLast, endsInJoiner run = false

theorem unjoined_cons_iff {run : List Char} {rest : List (List Char)} :
    Unjoined (run :: rest) ↔ (rest ≠ [] → endsInJoiner run = false) ∧ Unjoined rest := by
  cases rest with
  | nil => simp [Unjoined]
  | cons next more =>
    rw [Unjoined, List.dropLast_cons_of_ne_nil (by simp), List.forall_mem_cons]
    exact and_congr_left fun _ => ⟨fun closed _ => closed, fun closed => closed (by simp)⟩

theorem runsFrom_ne_nil (text : Styled) (place : Nat) (cs : List Char) :
    ∀ run ∈ text.runsFrom place cs, run ≠ [] := by
  induction cs generalizing place with
  | nil => simp [runsFrom]
  | cons c rest ih =>
    have later := ih (place + 1)
    unfold runsFrom
    split
    · simp
    · next run more found =>
      rw [found] at later
      split
      · simpa using later
      · intro other member
        rcases List.mem_cons.mp member with rfl | inside
        · simp
        · exact later other (List.mem_cons_of_mem run inside)

theorem unjoined_runsFrom (smooth : text.Smooth) {place : Nat} {cs : List Char}
    (rest : text.chars.drop place = cs) :
    Unjoined (text.runsFrom place cs) := by
  have parts {place : Nat} (ends : text.isEnd place = true) : Parts text.chars place := by
    obtain ⟨span, member, same⟩ := List.any_eq_true.mp ends
    rw [Bool.or_eq_true, beq_iff_eq, beq_iff_eq] at same
    rcases same with rfl | rfl
    · exact (smooth span member).1
    · exact (smooth span member).2
  induction cs generalizing place with
  | nil => simp [runsFrom, Unjoined]
  | cons c more ih =>
    have next : text.chars.drop (place + 1) = more := by rw [← List.drop_drop, rest, List.drop_one, List.tail_cons]
    have later := ih next
    have whole := text.runsFrom_flatten (place + 1) more
    have filled := text.runsFrom_ne_nil (place + 1) more
    unfold runsFrom
    cases found : text.runsFrom (place + 1) more with
    | nil => simp [Unjoined]
    | cons run others =>
      rw [found] at later whole filled
      simp only
      split
      · next ends =>
        -- a style begins or ends between the two runs, so no joiner stands there
        have inside : place + 1 < text.chars.length := by
          have some : more ≠ [] := by
            rintro rfl
            exact filled run List.mem_cons_self (List.append_eq_nil_iff.mp whole).1
          rw [← List.length_pos_iff, ← next, List.length_drop] at some
          omega
        have closed := (parts ends).2 inside
        rw [List.take_add, rest, List.take_one, List.head?_cons, Option.toList_some,
          endsInJoiner_append (by simp)] at closed
        exact unjoined_cons_iff.mpr ⟨fun _ => closed, later⟩
      · obtain ⟨first, rest⟩ := unjoined_cons_iff.mp later
        refine unjoined_cons_iff.mpr ⟨fun another => ?_, rest⟩
        rw [← List.singleton_append, endsInJoiner_append (filled run List.mem_cons_self)]
        exact first another

end Text.Styled

namespace Screen

open Text (Styled cells)

theorem sumCells_le {runs : List Line} (unjoined : Styled.Unjoined runs) : sumCells runs ≤ cells runs.flatten := by
  induction runs with
  | nil => exact Nat.zero_le _
  | cons run rest ih =>
    cases rest with
    | nil => simp [sumCells]
    | cons next more =>
      obtain ⟨closed, unjoined⟩ := Styled.unjoined_cons_iff.mp unjoined
      have later := ih unjoined
      have whole := Text.cells_add_le (closed (by simp)) (next :: more).flatten
      rw [sumCells, List.flatten_cons]
      omega

/-- A smooth text takes no more cells in its runs than as a whole. -/
theorem sumCells_runs_le {text : Styled} (smooth : text.Smooth) : sumCells text.runs ≤ cells text.chars := by
  have unjoined : Styled.Unjoined text.runs := Styled.unjoined_runsFrom smooth List.drop_zero
  rw [← text.runs_flatten]
  exact sumCells_le unjoined

/-! ### Tabs -/

inductive Untabbed : Line → Line → Prop
  | nil : Untabbed [] []
  | keep (c : Char) {a b : Line} (rest : Untabbed a b) : Untabbed (c :: a) (c :: b)
  | tab (n : Nat) {a b : Line} (rest : Untabbed a b) : Untabbed ('\t' :: a) (blanks (n + 1) ++ b)

theorem untabbed_append (before : Line) {a b : Line} (rest : Untabbed a b) :
    Untabbed (before ++ a) (before ++ b) := by
  induction before with
  | nil => exact rest
  | cons c more ih => exact .keep c ih

theorem untabbed_refl (a : Line) : Untabbed a a := by
  simpa using untabbed_append a .nil

theorem Untabbed.ink {a b : Line} (untabbed : Untabbed a b) : Text.ink b = Text.ink a := by
  induction untabbed with
  | nil => rfl
  | keep c rest ih => simp only [Text.ink, List.filter_cons] at ih ⊢; rw [ih]
  | @tab n a b rest ih =>
    have blank : Text.ink (blanks (n + 1)) = [] :=
      Text.ink_of_blank fun c member => mem_blanks member ▸ (by decide : Text.isBlank ' ' = true)
    have tab : Text.ink ('\t' :: a) = Text.ink a := rfl
    rw [Text.ink_append, blank, List.nil_append, ih, tab]

theorem Untabbed.isAnchored {a b : Line} (untabbed : Untabbed a b) (held : Bool) :
    Text.isAnchored held b = Text.isAnchored held a := by
  induction untabbed generalizing held with
  | nil => rfl
  | keep c rest ih => simp only [Text.isAnchored, ih]
  | @tab n a b rest ih =>
    have blank (n : Nat) (held : Bool) : Text.isAnchored held (blanks n ++ b) =
        Text.isAnchored (held && n == 0) b := by
      induction n generalizing held with
      | zero => simp [blanks]
      | succ n ih =>
        have plain : Text.isPlain ' ' = true := by decide
        have ends : Text.isBlank ' ' = true := by decide
        rw [blanks, List.replicate_succ, List.cons_append, Text.isAnchored, plain, Bool.or_true,
          Bool.true_and, Text.holds, ends, ← blanks, ih]
        simp
    have plain : Text.isPlain '\t' = true := by decide
    have ends : Text.isBlank '\t' = true := by decide
    rw [blank, ih, Text.isAnchored, plain, Text.holds, ends]
    simp

def withTabs : List Line → List Line
  | [] => []
  | [piece] => [piece]
  | piece :: next :: rest => (piece ++ ['\t']) :: withTabs (next :: rest)

theorem withTabs_ne_nil {pieces : List Line} (some : pieces ≠ []) : withTabs pieces ≠ [] := by
  fun_cases withTabs pieces <;> simp_all

theorem tabLengths_eq (pieces : List Line) : tabLengths pieces = (withTabs pieces).map List.length := by
  fun_induction withTabs pieces <;> simp_all [tabLengths]

theorem withTabs_flatten (pieces : List Line) : (withTabs pieces).flatten = ['\t'].intercalate pieces := by
  fun_induction withTabs pieces <;> simp_all

theorem getLast?_withTabs (pieces : List Line) :
    ∀ piece ∈ (withTabs pieces).dropLast, piece.getLast? = some '\t' := by
  fun_induction withTabs pieces with
  | case1 => simp
  | case2 => simp
  | case3 piece next rest ih =>
    rw [List.dropLast_cons_of_ne_nil (withTabs_ne_nil (by simp)), List.forall_mem_cons]
    exact ⟨by simp, ih⟩

def Tabbed (pieces : List Styled) : Prop :=
  ∀ piece ∈ pieces.dropLast, piece.chars.getLast? = some '\t'

theorem cut_at_tabs (line : Styled) :
    let pieces := line.cut (tabLengths (List.splitOn '\t' line.chars))
    (pieces.map Styled.chars).flatten = line.chars ∧ Tabbed pieces := by
  intro pieces
  have whole : line.chars = (withTabs (List.splitOn '\t' line.chars)).flatten := by
    rw [withTabs_flatten, List.intercalate_splitOn]
  have chars : pieces.map Styled.chars = withTabs (List.splitOn '\t' line.chars) := by
    have some := withTabs_ne_nil (List.splitOn_ne_nil '\t' line.chars)
    rw [← Styled.cut_chars some whole, ← tabLengths_eq]
  refine ⟨by rw [chars, ← whole], fun piece member => ?_⟩
  apply getLast?_withTabs (List.splitOn '\t' line.chars)
  rw [← chars, ← List.map_dropLast]
  exact List.mem_map_of_mem member

theorem chars_extend_marked (piece : Styled) (gap : Nat) :
    ((piece.withChars (piece.chars.dropLast ++ [' '])).extend gap).chars =
      piece.chars.dropLast ++ blanks (gap + 1) := by
  simp [Styled.extend, Styled.withChars, blanks, List.replicate_succ]

theorem joinAtTabs_untabbed (position : Nat) {pieces : List Styled} (tabbed : Tabbed pieces) :
    Untabbed (pieces.map Styled.chars).flatten (joinAtTabs position pieces).chars := by
  induction pieces generalizing position with
  | nil => exact .nil
  | cons piece rest ih =>
    cases rest with
    | nil => simpa [joinAtTabs] using untabbed_refl piece.chars
    | cons next more =>
      rw [Tabbed, List.dropLast_cons_of_ne_nil (by simp), List.forall_mem_cons] at tabbed
      unfold joinAtTabs
      rw [Styled.chars_append, chars_extend_marked, List.map_cons, List.flatten_cons, List.append_assoc,
        ← List.dropLast_append_getLast? _ tabbed.1, List.append_assoc, List.dropLast_concat]
      exact untabbed_append _ (.tab _ (ih _ tabbed.2))

theorem smooth_joinAtTabs (position : Nat) {pieces : List Styled} (tabbed : Tabbed pieces)
    (smooth : ∀ piece ∈ pieces, piece.Smooth) : (joinAtTabs position pieces).Smooth := by
  induction pieces generalizing position with
  | nil => simp [joinAtTabs, Styled.Smooth]
  | cons piece rest ih =>
    rw [List.forall_mem_cons] at smooth
    cases rest with
    | nil => exact smooth.1
    | cons next more =>
      rw [Tabbed, List.dropLast_cons_of_ne_nil (by simp), List.forall_mem_cons] at tabbed
      have some : piece.chars ≠ [] := by
        intro empty
        simp [empty] at tabbed
      have marked : Styled.Cut piece.chars (piece.chars.dropLast ++ [' ']) :=
        .padded (List.dropLast_prefix _) (by simpa using List.length_pos_iff.mpr some)
      have closed (cs : Line) : Text.endsInJoiner (cs ++ [' ']) = false := by
        rw [Text.endsInJoiner_append (by simp)]
        decide
      have first := (smooth.1.withChars marked).extend (closed _)
      unfold joinAtTabs
      apply (first _).append (ih _ tabbed.2 smooth.2)
      rw [chars_extend_marked, blanks, List.replicate_succ', ← List.append_assoc]
      exact closed _

theorem expandTabs_untabbed (line : Styled) : Untabbed line.chars (expandTabs line).chars := by
  obtain ⟨whole, tabbed⟩ := cut_at_tabs line
  have made := joinAtTabs_untabbed 0 tabbed
  rwa [whole] at made

theorem smooth_expandTabs {line : Styled} (smooth : line.Smooth) : (expandTabs line).Smooth :=
  smooth_joinAtTabs 0 (cut_at_tabs line).2 (Styled.forall_cut smooth smooth.slice _)

end Screen

end AlertRange

import AlertRange.Proofs.MeasuredText
import AlertRange.Proofs.PlainScreen
import AlertRange.Proofs.StyledLines

namespace AlertRange.Screen

open Text (Anchored Grapheme Measured Opens cells endsInJoiner ink isBlank sumWidths trimEnd)
open Text.Styled (Cut)

def Starts (cs : List Char) : Prop :=
  cs.head?.all (!Text.isJoiner ·) = true

/-- A line that no joiner opens and that is no wider than the screen without the white space behind it. -/
structure Fits (width : Nat) (line : Line) : Prop where
  room : wordCells line ≤ width
  starts : Starts line

/-- A text on lines, none of it lost. -/
structure Layout (width : Nat) (text : Line) (lines : List Line) : Prop where
  whole : lines.flatten = text
  fits : ∀ line ∈ lines, Fits width line

theorem starts_of_opens {cs : List Char} (opens : Opens cs) : Starts cs := by
  cases cs with
  | nil => rfl
  | cons c rest => simpa [Starts] using Text.not_joiner_of_wide (opens c rfl)

theorem starts_of_anchored {cs : List Char} (anchored : Anchored cs) : Starts cs := by
  cases cs with
  | nil => rfl
  | cons c rest => simpa [Starts] using Text.not_joiner_of_plain anchored.head

theorem starts_of_front {a b : List Char} (starts : Starts (a ++ b)) : Starts a := by
  cases a with
  | nil => rfl
  | cons c rest => exact starts

theorem wordCells_le (line : Line) : wordCells line ≤ cells line := by
  have whole := Text.cells_le_append (trimEnd isBlank line) (line.reverse.takeWhile isBlank).reverse
  rwa [Text.trimEnd_append] at whole

theorem Fits.append {width : Nat} {line word : Line} (fits : Fits width line) (closed : endsInJoiner line = false)
    (letters : ¬ ∀ c ∈ word, isBlank c = true) (anchored : Anchored word)
    (room : cells line + wordCells word ≤ width) :
    Fits width (line ++ word) where
  room := by
    have front : Anchored (trimEnd isBlank word) := by
      obtain ⟨after, split⟩ := Text.trimEnd_isPrefix isBlank word
      rw [← split] at anchored
      exact anchored.left
    rw [wordCells, Text.trimEnd_append_of_some line letters, Text.cells_append closed front]
    exact room
  starts := by
    cases line with
    | nil => exact starts_of_anchored anchored
    | cons c before => exact fits.starts

/-! ### Cutting -/

theorem cut_takeWidth (width : Nat) {all : List Grapheme} (filled : ∀ g ∈ all, g.chars ≠ []) :
    Cut (all.flatMap Grapheme.chars) (takeWidth width all) := by
  induction all generalizing width with
  | nil => exact .front List.prefix_rfl
  | cons g rest ih =>
    unfold takeWidth
    rw [List.flatMap_cons]
    split
    · exact .front List.nil_prefix
    · split
      · exact (ih _ fun other member => filled other (List.mem_cons_of_mem g member)).append g.chars
      · have some := List.length_pos_iff.mpr (filled g List.mem_cons_self)
        rw [← List.nil_append [' ']]
        apply Cut.padded List.nil_prefix
        rw [List.length_append, List.length_nil]
        omega

theorem opens_blank : Opens [' '] := by
  intro c head
  cases head
  decide

theorem opens_takeWidth {width : Nat} {g : Grapheme} {rest : List Grapheme} (measured : Measured (g :: rest))
    (opens : Opens g.chars) (wide : 0 < g.width) : Opens (takeWidth width (g :: rest)) := by
  unfold takeWidth
  split
  · simp [Opens]
  · split
    · exact opens.append (measured.chars_ne_nil wide) _
    · exact opens_blank

theorem cells_takeWidth (width : Nat) {all : List Grapheme} (measured : Measured all) :
    cells (takeWidth width all) ≤ width := by
  induction measured generalizing width with
  | nil => exact Nat.zero_le _
  | @last g exact =>
    unfold takeWidth
    split
    · exact Nat.zero_le _
    · split
      · simpa [takeWidth, exact]
      · have cell : cells [' '] = 1 := by decide
        omega
  | @cons g next rest closed opens wide later ih =>
    unfold takeWidth
    split
    · exact Nat.zero_le _
    · split
      · have after := ih (width - g.width)
        rw [closed _ (opens_takeWidth later opens wide)]
        omega
      · have cell : cells [' '] = 1 := by decide
        omega

theorem ink_takeWidth_of_blank (width : Nat) {all : List Grapheme}
    (blank : ink (all.flatMap Grapheme.chars) = []) :
    ink (takeWidth width all) = [] := by
  induction all generalizing width with
  | nil => rfl
  | cons g rest ih =>
    rw [List.flatMap_cons, Text.ink_append, List.append_eq_nil_iff] at blank
    unfold takeWidth
    split
    · rfl
    · split
      · rw [Text.ink_append, blank.1, ih _ blank.2]
        rfl
      · decide

theorem ink_takeWidth {width : Nat} {front back : List Grapheme} (measured : Measured (front ++ back))
    (room : sumWidths front ≤ width) (columns : front ≠ [] → 0 < width)
    (blank : ink (back.flatMap Grapheme.chars) = []) :
    ink (takeWidth width (front ++ back)) = ink (front.flatMap Grapheme.chars) := by
  induction front generalizing width with
  | nil => exact ink_takeWidth_of_blank width blank
  | cons g rest ih =>
    have some := columns (by simp)
    rw [sumWidths] at room
    have later : ink (takeWidth (width - g.width) (rest ++ back)) = ink (rest.flatMap Grapheme.chars) := by
      apply ih (measured.right (a := [g])) (by omega)
      intro more
      -- a grapheme behind the first one has a width, which is left to it
      obtain ⟨next, others, rfl⟩ := List.exists_cons_of_ne_nil more
      cases measured with
      | cons closed opens wide later =>
        rw [sumWidths] at room
        omega
    rw [List.cons_append, takeWidth, if_neg (by omega), if_pos (by omega), Text.ink_append, later,
      List.flatMap_cons, Text.ink_append]

structure Cropped (width : Nat) (line made : Line) : Prop where
  cut : Cut line made
  room : cells made ≤ width
  seen : ink made = ink line

theorem exists_cropTo {width : Nat} (columns : 0 < width) {line : Line} (fits : Fits width line) :
    Yields (Cropped width line) (cropTo width line) := by
  unfold cropTo
  split
  · next narrow => exact .ok ⟨.front List.prefix_rfl, narrow, rfl⟩
  · next wide =>
    have measured := Text.measured_graphemes fits.starts
    have widths : sumWidths (Text.graphemes line) = cells line := by
      rw [← measured.cells_flatMap, Text.graphemes_flatMap]
    rw [if_neg (by omega), cutGraphemes, if_neg (by omega), if_neg (by omega)]
    obtain ⟨front, back, continued⟩ := Text.exists_graphemes_of_trimEnd fits.starts
    refine .ok ⟨?_, cells_takeWidth width measured, ?_⟩
    · have cut : Cut ((Text.graphemes line).flatMap Grapheme.chars) (takeWidth width (Text.graphemes line)) :=
        cut_takeWidth width Text.chars_ne_nil_of_mem_graphemes
      rwa [Text.graphemes_flatMap] at cut
    · rw [continued.whole] at measured ⊢
      rw [ink_takeWidth measured (continued.front_width ▸ fits.room) (fun _ => columns) continued.back_ink,
        continued.front_ink, Text.ink_trimEnd fun _ blank => blank]

/-! ### Pieces of a word -/

structure Pieces (width : Nat) (text : Line) (made : List Line) : Prop where
  whole : made.flatten = text
  filled : ∀ piece ∈ made, piece ≠ []
  room : ∀ piece ∈ made, cells piece ≤ width
  starts : ∀ piece ∈ made, Starts piece

theorem Pieces.cons {width : Nat} {text first : Line} {rest : List Line} (pieces : Pieces width text rest)
    (filled : first ≠ []) (room : cells first ≤ width) (starts : Starts first) :
    Pieces width (first ++ text) (first :: rest) where
  whole := by rw [List.flatten_cons, pieces.whole]
  filled := by simpa [filled] using pieces.filled
  room := by simpa [room] using pieces.room
  starts := by simpa [starts] using pieces.starts

theorem Pieces.fits {width : Nat} {text : Line} {made : List Line} (pieces : Pieces width text made) :
    ∀ piece ∈ made, Fits width piece :=
  fun piece member => ⟨(wordCells_le piece).trans (pieces.room piece member), pieces.starts piece member⟩

theorem setGraphemes_pieces {width : Nat} (held : List Grapheme) {rest : List Grapheme}
    (measured : Measured (held ++ rest))
    (narrow : ∀ g ∈ rest, g.width ≤ width) (used : sumWidths held ≤ width)
    (some : 0 < sumWidths held + sumWidths rest) (starts : Starts ((held ++ rest).flatMap Grapheme.chars)) :
    Pieces width ((held ++ rest).flatMap Grapheme.chars)
      (setGraphemes width (held.flatMap Grapheme.chars) (sumWidths held) rest) := by
  induction rest generalizing held with
  | nil =>
    rw [List.append_nil] at measured starts ⊢
    have wide : 0 < sumWidths held := by simpa [sumWidths] using some
    rw [setGraphemes, if_neg (by omega)]
    have cells := measured.cells_flatMap
    refine ⟨by simp, ?_, by simpa [cells] using used, by simpa using starts⟩
    intro piece member empty
    rw [← List.mem_singleton.mp member, empty, Text.cells_nil] at cells
    omega
  | cons g rest ih =>
    have narrow' := fun other member => narrow other (List.mem_cons_of_mem g member)
    unfold setGraphemes
    split
    · next full =>
      -- no grapheme is wider than the screen, so the piece holds one already
      have first := narrow g List.mem_cons_self
      have filled : held ≠ [] := by
        rintro rfl
        rw [sumWidths] at full
        omega
      obtain ⟨opens, wide⟩ := measured.opens_of_ne_nil filled
      have cells := measured.left.cells_flatMap
      have piece : held.flatMap Grapheme.chars ≠ [] := by
        intro empty
        rw [empty, Text.cells_nil] at cells
        omega
      have next := starts_of_opens (opens.append (measured.right.chars_ne_nil wide) (rest.flatMap Grapheme.chars))
      have later := ih [g] measured.right narrow' (by simpa [sumWidths] using first)
        (by simp only [sumWidths]; omega) next
      rw [List.flatMap_append] at starts ⊢
      simpa [sumWidths] using later.cons piece (cells ▸ used) (starts_of_front starts)
    · next fits =>
      have later := ih (held ++ [g]) (by simpa using measured) narrow'
        (by rw [Text.sumWidths_append]; simp only [sumWidths]; omega)
        (by rw [Text.sumWidths_append]; simp only [sumWidths] at some ⊢; omega) (by simpa using starts)
      simpa [Text.sumWidths_append, sumWidths] using later

theorem pieces_pieces {width : Nat} (columns : 2 ≤ width) {word : Line} (wide : 0 < cells word)
    (starts : Starts word) : Pieces width word (pieces width word) := by
  have measured := Text.measured_graphemes starts
  have made : Pieces width (([] ++ Text.graphemes word).flatMap Grapheme.chars)
      (setGraphemes width [] 0 (Text.graphemes word)) := setGraphemes_pieces [] measured
    (fun g member => (Text.width_le_of_mem_graphemes g member).trans columns) (Nat.zero_le _)
    (by rw [← measured.cells_flatMap, Text.graphemes_flatMap, sumWidths, Nat.zero_add]; exact wide)
    (by rwa [List.nil_append, Text.graphemes_flatMap])
  rwa [List.nil_append, Text.graphemes_flatMap] at made

/-! ### Words on lines -/

def EndsBlank (cs : List Char) : Prop :=
  ∀ c, cs.getLast? = some c → isBlank c = true

theorem endsInJoiner_of_endsBlank {cs : List Char} (ended : EndsBlank cs) : endsInJoiner cs = false := by
  unfold endsInJoiner
  cases last : cs.getLast? with
  | none => rfl
  | some c => simpa using Text.not_joiner_of_plain (Text.isPlain_of_blank (ended c last))

theorem EndsBlank.of_append {a b : List Char} (ended : EndsBlank (a ++ b)) (some : b ≠ []) : EndsBlank b := by
  intro c last
  apply ended
  rw [List.getLast?_append_of_ne_nil a some, last]

inductive Spaced : List Line → Prop
  | nil : Spaced []
  | cons {word : Line} {rest : List Line} (letters : ¬ ∀ c ∈ word, isBlank c = true) (anchored : Anchored word)
      (ended : rest ≠ [] → EndsBlank word) (later : Spaced rest) : Spaced (word :: rest)

theorem nextWord?_cases {cs word rest : List Char} (found : nextWord? cs = some (word, rest)) :
    (¬ ∀ c ∈ word, isBlank c = true) ∧ (rest ≠ [] → EndsBlank word) := by
  simp only [nextWord?] at found
  split at found
  · cases found
  · next some =>
    cases found
    generalize cs.dropWhile isBlank = body at some
    constructor
    · intro all
      obtain ⟨c, member⟩ := List.exists_mem_of_ne_nil _ some
      have letter := List.mem_takeWhile_imp member
      have blank := all c (by simp [member])
      simp [blank] at letter
    · intro more
      -- what stops the word is white space, so some of it comes before the rest
      cases tail : body.dropWhile (!isBlank ·) with
      | nil =>
        rw [tail] at more
        exact absurd rfl more
      | cons c after =>
        have stop : (!isBlank c) = false := Text.head_dropWhile (by rw [tail]; rfl)
        have gap : (c :: after).takeWhile isBlank ≠ [] := by simpa using stop
        intro d last
        rw [List.getLast?_append_of_ne_nil _ gap] at last
        exact List.mem_takeWhile_imp (List.mem_of_getLast? last)

theorem spaced_words {cs : List Char} (anchored : Anchored cs) : Spaced (words cs) := by
  induction cs using words.induct with
  | case1 cs none =>
    rw [words_of_blank none]
    exact .nil
  | case2 cs word rest found ih =>
    rw [words_of_word found]
    obtain ⟨letters, ended⟩ := nextWord?_cases found
    rw [← nextWord?_append found] at anchored
    by_cases last : rest = []
    · rw [last, words_of_blank rfl]
      exact .cons letters anchored.left (by simp) .nil
    · have blank := ended last
      have some : word ≠ [] := by
        rintro rfl
        simp at letters
      have final := List.getLast?_eq_getLast_of_ne_nil some
      exact .cons letters anchored.left (fun _ => blank) (ih (anchored.right_of_blank _ final (blank _ final)))

theorem Layout.append {width : Nat} {a b : Line} {front back : List Line} (first : Layout width a front)
    (second : Layout width b back) : Layout width (a ++ b) (front ++ back) where
  whole := by rw [List.flatten_append, first.whole, second.whole]
  fits line member := (List.mem_append.mp member).elim (first.fits line) (second.fits line)

theorem layout_closing {width : Nat} {line : Line} {made : List Line} (fits : Fits width line)
    (filled : ∀ piece ∈ made.dropLast, piece ≠ []) (each : ∀ piece ∈ made.dropLast, Fits width piece) :
    Layout width (line ++ made.dropLast.flatten) (closing line made) := by
  unfold closing
  split
  · next empty =>
    have kept : made.dropLast.dropWhile List.isEmpty = made.dropLast := by
      cases front : made.dropLast with
      | nil => rfl
      | cons piece more =>
        rw [front] at filled
        rw [List.dropWhile_cons_of_neg]
        simpa using filled piece List.mem_cons_self
    rw [kept, empty]
    exact ⟨rfl, each⟩
  · exact ⟨rfl, by simpa [fits] using each⟩

/-- The line before a word, and the pieces of the word, with the last of which the text goes on. -/
theorem layout_of_pieces {width : Nat} {line word last after : Line} {made lines : List Line}
    (fits : Fits width line) (known : Pieces width word made) (final : made.getLast? = some last)
    (back : Layout width (last ++ after) lines) :
    Layout width (line ++ (word ++ after)) (closing line made ++ lines) := by
  have front := layout_closing fits (fun piece inside => known.filled piece (List.mem_of_mem_dropLast inside))
    (fun piece inside => known.fits piece (List.mem_of_mem_dropLast inside))
  have whole : made.dropLast.flatten ++ last = word := by
    have split := List.dropLast_append_getLast? last final
    conv_rhs => rw [← known.whole, ← split, List.flatten_append, List.flatten_singleton]
  have all := front.append back
  rwa [List.append_assoc, ← List.append_assoc _ last, whole] at all

theorem setWords_layout {width : Nat} (columns : 2 ≤ width) {all : List Line} (spaced : Spaced all) (line : Line)
    (ended : all ≠ [] → EndsBlank line) {used : Nat} (count : all ≠ [] → used = cells line)
    (fits : Fits width line) :
    Layout width (line ++ all.flatten) (setWords true width line used all) := by
  induction spaced generalizing line used with
  | nil => exact ⟨by simp [setWords], by simpa [setWords] using fits⟩
  | @cons word rest letters anchored ended' later ih =>
    obtain rfl := count (by simp)
    have closed := endsInJoiner_of_endsBlank (ended (by simp))
    have some : word ≠ [] := by
      rintro rfl
      simp at letters
    rw [List.flatten_cons]
    unfold setWords
    split
    · next room =>
      have next := fits.append closed letters anchored room
      rw [← List.append_assoc]
      refine ih _ ?_ (fun _ => (Text.cells_append closed anchored).symm) next
      intro more c last
      rw [List.getLast?_append_of_ne_nil line some] at last
      exact ended' more c last
    · split
      · next fold =>
        have made := pieces_pieces columns (Nat.zero_lt_of_lt (fold.2.trans_le (wordCells_le word)))
          (starts_of_anchored anchored)
        split
        · next last final =>
          have member := List.mem_of_getLast? final
          apply layout_of_pieces fits made final
          refine ih last (fun more => ?_) (fun _ => rfl) (made.fits last member)
          have ended := ended' more
          rw [← made.whole, ← List.dropLast_append_getLast? last final, List.flatten_append,
            List.flatten_singleton] at ended
          exact ended.of_append (made.filled last member)
        · next none =>
          have empty := made.whole
          rw [List.getLast?_eq_none_iff.mp none] at empty
          exact absurd empty.symm some
      · next narrow =>
        have room : wordCells word ≤ width := by simpa using narrow
        have back : Layout width (word ++ rest.flatten) (setWords true width word (cells word) rest) :=
          ih word ended' (fun _ => rfl) ⟨room, starts_of_anchored anchored⟩
        have front : Layout width (line ++ [word].dropLast.flatten) (closing line [word]) :=
          layout_closing fits (by simp) (by simp)
        rw [List.dropLast_singleton, List.flatten_nil, List.append_nil] at front
        exact front.append back

theorem setWords_ne_nil (fold : Bool) (width : Nat) (line : Line) (used : Nat) (all : List Line) :
    setWords fold width line used all ≠ [] := by
  induction all generalizing line used with
  | nil => simp [setWords]
  | cons word rest ih =>
    unfold setWords
    split
    · exact ih _ _
    · split
      · split
        · simp [ih]
        · exact ih _ _
      · simp [ih]

theorem divide_ne_nil (fold : Bool) (width : Nat) (cs : List Char) : divide fold width cs ≠ [] := by
  unfold divide
  split
  · simp
  · exact setWords_ne_nil fold width [] 0 _

theorem divide_layout {width : Nat} (columns : 2 ≤ width) {cs : List Char} (anchored : Anchored cs) :
    Layout width cs (divide true width cs) := by
  unfold divide
  split
  · next none =>
    refine ⟨by simp, fun line member => ?_⟩
    obtain rfl := List.mem_singleton.mp member
    have blank : line.dropWhile isBlank = [] := by
      by_contra some
      exact words_ne_nil some none
    have nothing : trimEnd isBlank line = [] := by
      rw [List.dropWhile_eq_nil_iff] at blank
      simpa [trimEnd] using blank
    exact ⟨by simp [wordCells, nothing], starts_of_anchored anchored⟩
  · next all some =>
    have whole : (words cs).flatten = cs := words_flatten some
    have made : Layout width ([] ++ (words cs).flatten) (setWords true width [] 0 (words cs)) :=
      setWords_layout columns (spaced_words anchored) [] (by simp [EndsBlank]) (by simp) ⟨Nat.zero_le _, rfl⟩
    rwa [List.nil_append, whole] at made

end AlertRange.Screen

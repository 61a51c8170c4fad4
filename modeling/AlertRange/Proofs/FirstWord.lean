import AlertRange.Proofs.WrappedText

namespace AlertRange.Screen

open Text (Grapheme Narrow Styled cells charCells isBlank trimEnd)

variable {width : Nat} {word : Line}

theorem begins_takeWidth {c : Char} (cell : charCells c = 1) (base : Option Char) {word : Line}
    (narrow : ∀ d ∈ word, Narrow d) (rest : Line) (short : word.length + 1 < width) :
    c :: word <+: takeWidth width (Text.graphemesAfter (.ofChar c) base (word ++ rest)) := by
  induction word generalizing c base width with
  | nil =>
    obtain ⟨first, more, whole, longer, -⟩ := Text.exists_graphemesAfter (.ofChar c) base rest
    have two : first.width ≤ 2 := by
      apply Text.width_le_of_mem_graphemesAfter (g := .ofChar c) (Text.charCells_le c) (fun _ => cell.le) first
      rw [whole]
      exact List.mem_cons_self
    rw [List.length_nil] at short
    rw [List.nil_append, whole, takeWidth, if_neg (by omega), if_pos (by omega)]
    exact longer.trans (List.prefix_append _ _)
  | cons d more ih =>
    have next := narrow d List.mem_cons_self
    rw [List.length_cons] at short
    have later := ih next.1 (some d) (fun e member => narrow e (List.mem_cons_of_mem d member))
      (show more.length + 1 < width - 1 by omega)
    have wide : charCells d ≠ 0 := by
      rw [next.1]
      decide
    rw [List.cons_append, Text.graphemesAfter_cons_of_wide wide, takeWidth, if_neg (by omega),
      if_pos (by simp only [Grapheme.ofChar]; omega)]
    simpa [Grapheme.ofChar, cell] using later

theorem begins_cropTo {line made : Line} (narrow : ∀ c ∈ word, Narrow c) (short : word.length < width)
    (begins : word <+: line) (cropped : cropTo width line = .ok made) : word <+: made := by
  unfold cropTo cutGraphemes at cropped
  split at cropped
  · cases cropped
    exact begins
  · rw [if_neg (by omega)] at cropped
    split at cropped
    · cases cropped
    · split at cropped
      · cases cropped
      · cases cropped
        obtain ⟨rest, rfl⟩ := begins
        cases word with
        | nil => exact List.nil_prefix
        | cons c more =>
          exact begins_takeWidth (narrow c List.mem_cons_self).1 _
            (fun d member => narrow d (List.mem_cons_of_mem c member)) rest short

theorem begins_cropRuns {runs made : List Line} (narrow : ∀ c ∈ word, Narrow c) (short : word.length < width)
    (begins : word <+: runs.flatten) (cropped : cropRuns width runs = .ok made) : word <+: made.flatten := by
  induction runs generalizing width word made with
  | nil =>
    cases cropped
    exact begins
  | cons run rest ih =>
    rw [List.flatten_cons] at begins
    unfold cropRuns at cropped
    rcases List.prefix_or_prefix_of_prefix begins (List.prefix_append run rest.flatten) with inside | ⟨after, rfl⟩
    · split at cropped
      · obtain ⟨more, -, rfl⟩ := Yields.of_map cropped
        exact inside.trans (List.prefix_append _ _)
      · obtain ⟨first, cut, rfl⟩ := Yields.of_map cropped
        simpa using begins_cropTo narrow short inside cut
    · -- the word goes on in the next run, so this one is a part of it and takes a cell for each character
      have count := Text.cells_of_narrow fun c member => narrow c (List.mem_append_left after member)
      rw [List.length_append] at short
      rw [if_pos (by omega)] at cropped
      obtain ⟨more, later, rfl⟩ := Yields.of_map cropped
      rw [List.flatten_cons]
      apply (List.prefix_append_right_inj run).mpr
      exact ih (fun c member => narrow c (List.mem_append_right run member)) (by omega)
        ((List.prefix_append_right_inj run).mp begins) later

theorem begins_fit {runs made : List Line} (narrow : ∀ c ∈ word, Narrow c) (short : word.length < width)
    (begins : word <+: runs.flatten) (fitted : fit width runs = .ok made) : word <+: made.flatten := by
  unfold fit at fitted
  split at fitted
  · exact begins_cropRuns narrow short begins fitted
  · cases fitted
    exact begins

theorem begins_setWords (fold : Bool) {line : Line} (begins : word <+: line) (some : line ≠ []) (used : Nat)
    (all : List Line) : ∃ first rest, setWords fold width line used all = first :: rest ∧ word <+: first := by
  induction all generalizing line used with
  | nil => exact ⟨line, [], rfl, begins⟩
  | cons next more ih =>
    have longer := begins.trans (List.prefix_append line next)
    have filled : line ++ next ≠ [] := by simp [some]
    have closed (made after : List Line) : ∃ first rest, closing line made ++ after = first :: rest ∧
      word <+: first :=
      ⟨line, _, by rw [closing, if_neg some, List.cons_append], begins⟩
    unfold setWords
    split
    · exact ih longer filled _
    · split
      · split
        · exact closed _ _
        · exact ih longer filled _
      · exact closed _ _

theorem exists_nextWord? (isWord : IsWord word) (rest : Line) :
    ∃ gap after, nextWord? (word ++ ' ' :: rest) = some (word ++ gap, after) ∧ ∀ c ∈ gap, isBlank c = true := by
  have letters : ∀ c ∈ word, (!isBlank c) = true := fun c member => by rw [isWord.letters c member]; rfl
  have ended : isBlank ' ' = true := by decide
  have margin : (word ++ ' ' :: rest).takeWhile isBlank = [] ∧
      (word ++ ' ' :: rest).dropWhile isBlank = word ++ ' ' :: rest := by
    obtain ⟨c, more, rfl⟩ := List.exists_cons_of_ne_nil isWord.some
    simp [isWord.letters c List.mem_cons_self]
  have first : (word ++ ' ' :: rest).takeWhile (!isBlank ·) = word := by
    rw [List.takeWhile_append_of_pos letters]
    simp [ended]
  have tail : (word ++ ' ' :: rest).dropWhile (!isBlank ·) = ' ' :: rest := by
    rw [List.dropWhile_append_of_pos letters]
    simp [ended]
  refine ⟨(' ' :: rest).takeWhile isBlank, (' ' :: rest).dropWhile isBlank, ?_, fun c member => ?_⟩
  · simp only [nextWord?, margin.1, margin.2, first, tail, if_neg isWord.some, List.nil_append]
  · exact List.mem_takeWhile_imp member

theorem begins_divide (fold : Bool) {cs : Line} (isWord : IsWord word) (short : word.length < width)
    (begins : word ++ [' '] <+: cs) : ∃ first rest, divide fold width cs = first :: rest ∧ word <+: first := by
  obtain ⟨rest, rfl⟩ := begins
  rw [List.append_assoc, List.singleton_append]
  obtain ⟨gap, after, found, blank⟩ := exists_nextWord? isWord rest
  have room : wordCells (word ++ gap) ≤ width := by
    rw [wordCells, Text.trimEnd_append_of_all blank fun c last => isWord.letters c (List.mem_of_getLast? last),
      Text.cells_of_narrow isWord.narrow]
    exact short.le
  unfold divide
  rw [words_of_word found]
  simp only
  rw [setWords, if_pos (by omega)]
  exact begins_setWords fold (List.prefix_append word gap) (by simp [isWord.some]) _ _

theorem begins_cut {line : Styled} (begins : word <+: line.chars) {first : Nat} (enough : word.length ≤ first)
    (more : List Nat) : ∃ piece rest, line.cut (first :: more) = piece :: rest ∧ word <+: piece.chars := by
  unfold Styled.cut
  split
  · exact ⟨line, [], rfl, begins⟩
  · refine ⟨_, _, rfl, ?_⟩
    rw [Styled.slice, List.drop_zero]
    exact List.prefix_take_iff.mpr ⟨begins, enough⟩

theorem begins_wrapLine {line : Styled} (isWord : IsWord word) (short : word.length < width)
    (begins : word ++ [' '] <+: line.chars) :
    ∃ first rest, wrapLine true width line = first :: rest ∧ word <+: first.chars := by
  obtain ⟨first, more, divided, held⟩ := begins_divide true isWord short begins
  obtain ⟨piece, rest, cut, held'⟩ := begins_cut ((List.prefix_append word [' ']).trans begins) held.length_le
    (more.map List.length)
  refine ⟨dropExcess width piece, rest.map (dropExcess width), ?_, ?_⟩
  · rw [wrapLine, divided, List.map_cons, cut, List.map_cons]
  · have kept := Text.prefix_trimEnd held' fun c last => isWord.letters c (List.mem_of_getLast? last)
    rw [← trimEnd_dropExcess width] at kept
    exact kept.trans (Text.trimEnd_isPrefix _ _)

theorem begins_of_render {text : Styled} (isWord : IsWord word) (short : word.length < width)
    (begins : word ++ [' '] <+: text.chars) (unbroken : '\n' ∉ text.chars) (untabbed : '\t' ∉ text.chars)
    {shown : List Char} (rendered : (Block.text text).render width = .ok shown) : word <+: shown := by
  obtain ⟨first, rest, lines, held⟩ := begins_wrapLine isWord short begins
  unfold Block.render Block.lines at rendered
  obtain ⟨all, told, rendered⟩ := Yields.of_bind rendered
  obtain ⟨made, wrapped, styled⟩ := Yields.of_bind told
  rw [wrap, lines_of_not_mem unbroken, List.flatMap_singleton, expandTabs_of_not_mem untabbed, lines] at wrapped
  obtain ⟨line, more, cropped, -, rfl⟩ := Yields.of_mapM_cons wrapped
  obtain ⟨cut, kept, rfl⟩ := Yields.of_map cropped
  obtain ⟨-, -, equal⟩ := Yields.of_bind styled
  cases equal
  obtain ⟨_, fits, equal⟩ := Yields.of_bind rendered
  cases equal
  obtain ⟨runs, others, fitted, -, rfl⟩ := Yields.of_mapM_cons fits
  have whole : word <+: (first.withChars cut).runs.flatten := by
    rw [Styled.runs_flatten]
    exact begins_cropTo isWord.narrow short held kept
  have shown := begins_fit isWord.narrow short whole fitted
  rw [List.flatMap_cons, List.append_assoc]
  exact shown.trans (List.prefix_append _ _)

end AlertRange.Screen

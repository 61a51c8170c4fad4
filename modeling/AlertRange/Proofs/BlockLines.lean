import AlertRange.Proofs.WrappedText

namespace AlertRange

namespace Screen

open Text (Narrow Styled cells isBlank)

theorem slices_ne_nil (text : Styled) (start : Nat) {lengths : List Nat} (some : lengths ≠ []) :
    text.slices start lengths ≠ [] := by
  obtain ⟨length, rest, rfl⟩ := List.exists_cons_of_ne_nil some
  exact List.cons_ne_nil _ _

theorem cut_ne_nil (text : Styled) (lengths : List Nat) : text.cut lengths ≠ [] := by
  unfold Styled.cut
  split
  · simp
  · next many =>
    apply slices_ne_nil
    rintro rfl
    exact many (by decide)

theorem wrap_ne_nil {width : Nat} {text : Styled} {made : List Styled} (wrapped : wrap width text = .ok made) :
    made ≠ [] := by
  refine Yields.ne_nil_of_mapM wrapped ?_
  have lines : text.lines ≠ [] := by
    intro none
    have pieces := Styled.lines_chars text
    rw [none] at pieces
    exact List.splitOn_ne_nil _ _ pieces.symm
  obtain ⟨line, rest, split⟩ := List.exists_cons_of_ne_nil lines
  rw [split, List.flatMap_cons]
  exact List.append_ne_nil_of_left_ne_nil (by simpa [wrapLine] using cut_ne_nil _ _) _

theorem tableLines_ne_nil {rows : List Row} {made : List (List Line)} (set : tableLines rows = .ok made) :
    made ≠ [] := by
  obtain ⟨rowsLines, all, rfl⟩ := Yields.of_map set
  obtain ⟨first, more, head, -, rfl⟩ := Yields.of_mapM_cons all
  have room : min valueLimit heading.value.chars.length ≤ valueWidth rows := by
    have most : heading.value.chars.length ≤ ((heading :: rows).map fun row =>
      naturalWidth row.value).foldr max 0 :=
      List.le_max_of_le' 0 (List.mem_map_of_mem List.mem_cons_self) (naturalWidth_of_word isPlain_heading.word).ge
    unfold valueWidth
    omega
  rw [rowLines_of_plain isPlain_heading room (Nat.min_le_left _ _)] at head
  cases head
  simp

theorem lines_ne_nil {block : Block} {width : Nat} {made : List (List Line)} (set : block.lines width = .ok made) :
    made ≠ [] := by
  cases block with
  | table rows => exact tableLines_ne_nil set
  | text content =>
    obtain ⟨parts, wrapped, shown⟩ := Yields.of_bind set
    obtain ⟨-, -, shown⟩ := Yields.of_bind shown
    cases shown
    simpa using wrap_ne_nil wrapped

theorem exists_line_end {block : Block} {width : Nat} {shown : List Char}
    (rendered : block.render width = .ok shown) :
    ∃ before, shown = before ++ ['\n'] := by
  obtain ⟨lines, set, rest⟩ := Yields.of_bind rendered
  obtain ⟨fitted, all, made⟩ := Yields.of_bind rest
  cases made
  rcases List.eq_nil_or_concat fitted with none | ⟨front, last, rfl⟩
  · exact absurd none (Yields.ne_nil_of_mapM all (lines_ne_nil set))
  · exact ⟨front.flatMap (fun runs => runs.flatten ++ ['\n']) ++ last.flatten, by simp⟩

/-- A piece that ends in a blank ends in the front of a text whose blanks are all there. -/
theorem length_le_of_ends_blank {front word before after : Line} (whole : before ++ after = front ++ word)
    (letters : ∀ c ∈ word, isBlank c = false) {c : Char} (last : before.getLast? = some c)
    (blank : isBlank c = true) :
    before.length ≤ front.length := by
  by_contra long
  obtain ⟨tail, rfl⟩ : front <+: before :=
    List.prefix_of_prefix_length_le (List.prefix_append front word) ⟨after, whole⟩ (Nat.le_of_not_le long)
  have some : tail ≠ [] := by
    rintro rfl
    simp at long
  rw [List.getLast?_append_of_ne_nil front some] at last
  rw [List.append_assoc, List.append_cancel_left_eq] at whole
  have letter := letters c (whole ▸ List.mem_append_left _ (List.mem_of_getLast? last))
  rw [blank] at letter
  cases letter

section Narrow

variable {width : Nat}

/-- A text whose blanks are all in its front, which is short, is set on lines that are not too long. -/
theorem length_le_of_mem_divide (columns : 2 ≤ width) {front word : Line} (narrow : ∀ c ∈ front ++ word, Narrow c)
    (letters : ∀ c ∈ word, isBlank c = false) (short : front.length ≤ width) :
    ∀ line ∈ divide true width (front ++ word), line.length ≤ width := by
  intro line member
  have layout := divide_layout columns (Text.anchored_of_plain fun c inside => (narrow c inside).2)
  obtain ⟨before, after, split⟩ := List.append_of_mem member
  have whole : (before.flatten ++ line) ++ after.flatten = front ++ word := by
    rw [← layout.whole, split]
    simp
  by_cases ended : ∃ c, line.getLast? = some c ∧ isBlank c = true
  · obtain ⟨c, last, blank⟩ := ended
    have ends : (before.flatten ++ line).getLast? = some c := by rw [List.getLast?_append, last, Option.some_or]
    have inFront := length_le_of_ends_blank whole letters ends blank
    rw [List.length_append] at inFront
    omega
  · -- without a blank at its end the line has as many cells as it fits into
    have letter (c : Char) (last : line.getLast? = some c) : isBlank c = false := by
      simpa using fun blank => ended ⟨c, last, blank⟩
    have trimmed := Text.trimEnd_append_of_all (List.forall_mem_nil fun c => isBlank c = true) letter
    have room := (layout.fits line member).room
    rw [List.append_nil] at trimmed
    rw [wordCells, trimmed, Text.cells_of_narrow] at room
    · exact room
    · intro c inside
      apply narrow
      rw [← whole]
      simp [inside]

/-- A text of narrow characters whose lines are not too long is shown on them as it is. -/
theorem render_of_divide (columns : 2 ≤ width) {content : Styled} (sound : content.Sound Narrow)
    (short : ∀ line ∈ divide true width content.chars, line.length ≤ width) :
    (Block.text content).render width = .ok ((divide true width content.chars).flatMap (· ++ ['\n'])) := by
  have narrow := sound.chars
  have layout := divide_layout columns (Text.anchored_of_plain fun c member => (narrow c member).2)
  let parts := content.cut ((divide true width content.chars).map List.length)
  have chars : parts.map Styled.chars = divide true width content.chars :=
    Styled.cut_chars (divide_ne_nil true width content.chars) layout.whole.symm
  have room : ∀ part ∈ parts, part.chars.length ≤ width := fun part member =>
    short _ (chars ▸ List.mem_map_of_mem member)
  have known : ∀ part ∈ parts, part.Sound Narrow := sound.cut _
  have wrapped : wrap width content = .ok parts := by
    have kept : wrapLine true width content = parts := by
      rw [wrapLine, List.map_congr_left fun part member => dropExcess_of_fit (room part member), List.map_id']
    rw [wrap, lines_of_not_mem (Text.not_mem_of_narrow narrow (by decide)), List.flatMap_singleton,
      expandTabs_of_not_mem (Text.not_mem_of_narrow narrow (by decide)), kept]
    rw [mapM_of_ok (g := id) fun part member => ?_, List.map_id]
    have fits : cells part.chars ≤ width := by
      rw [Text.cells_of_narrow (known part member).chars]
      exact room part member
    rw [crop, cropTo, if_pos fits]
    exact congrArg Except.ok (withChars_chars part)
  have readable : runsOf parts = .ok (parts.map Styled.runs) :=
    runsOf_of_readable fun part member => (known part member).styles
  have fitted : (parts.map Styled.runs).mapM (fit width) = .ok ((parts.map Styled.runs).map id) := by
    apply mapM_of_ok
    intro runs member
    obtain ⟨part, inside, rfl⟩ := List.mem_map.mp member
    have narrow := (known part inside).chars
    apply fit_of_le
    rw [sumCells_of_plain, Styled.runs_flatten, Text.cells_of_narrow narrow]
    · exact room part inside
    · rw [Styled.runs_flatten]
      exact fun c member => (narrow c member).2
  rw [← chars]
  simp [Block.render, Block.lines, wrapped, readable, fitted, bind, Except.bind, List.flatMap_map,
    Styled.runs_flatten]

end Narrow

end Screen

end AlertRange

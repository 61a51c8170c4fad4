import AlertRange.Proofs.StyledLines
import AlertRange.Proofs.WrappedLines

namespace AlertRange.Screen

open Text (Anchored Styled cells ink isBlank trimEnd)

/-- An anchored text in styles that can be read, none of which begins or ends behind a joiner. -/
structure Settable (text : Styled) : Prop where
  anchored : Anchored text.chars
  smooth : text.Smooth
  readable : ∀ span ∈ text.spans, Styled.Readable span.style

structure Unbroken (keep : List Char → Prop) (line : Styled) : Prop where
  kept : keep line.chars
  smooth : line.Smooth
  sound : line.Sound (· ≠ '\n')

variable {width : Nat} {line text : Styled}

theorem anchored_of_mem_splitOn {cs : List Char} (anchored : Anchored cs) :
    ∀ piece ∈ List.splitOn '\n' cs, Anchored piece := by
  have each (pieces : List (List Char)) (anchored : Anchored (['\n'].intercalate pieces)) :
      ∀ piece ∈ pieces, Anchored piece := by
    induction pieces with
    | nil => simp
    | cons piece rest ih =>
      cases rest with
      | nil => simpa using anchored
      | cons next more =>
        rw [List.intercalate_cons_cons, List.append_assoc] at anchored
        refine List.forall_mem_cons.mpr ⟨anchored.left, ih ?_⟩
        rw [← List.append_assoc] at anchored
        exact anchored.right_of_blank '\n' (by simp) (by decide)
  apply each
  rwa [List.intercalate_splitOn]

theorem unbroken_lines (settable : Settable text) : ∀ line ∈ text.lines, Unbroken Anchored line := by
  intro line member
  have piece : line.chars ∈ List.splitOn '\n' text.chars := by
    rw [← Styled.lines_chars]
    exact List.mem_map_of_mem member
  have known : text.Sound fun _ => True := ⟨fun _ _ => trivial, settable.readable⟩
  refine ⟨anchored_of_mem_splitOn settable.anchored _ piece, ?_, ?_, (known.lines line member).styles⟩
  · exact Styled.forall_lines settable.smooth settable.smooth.slice line member
  · rintro c inside rfl
    exact Text.not_mem_of_mem_splitOn piece inside

theorem unbroken_expandTabs (unbroken : Unbroken Anchored line) : Unbroken Anchored (expandTabs line) where
  kept := by
    rw [Anchored, (expandTabs_untabbed line).isAnchored]
    exact unbroken.kept
  smooth := smooth_expandTabs unbroken.smooth
  sound := sound_expandTabs unbroken.sound (by decide)

theorem trimEnd_dropExcess (width : Nat) (line : Styled) :
    trimEnd isBlank (dropExcess width line).chars = trimEnd isBlank line.chars := by
  apply Text.trimEnd_take
  have split := congrArg List.length (Text.trimEnd_append isBlank line.chars)
  rw [List.length_append, List.length_reverse] at split
  omega

theorem ink_dropExcess (width : Nat) (line : Styled) : ink (dropExcess width line).chars = ink line.chars := by
  have trimmed := Text.ink_trimEnd fun (c : Char) (blank : isBlank c = true) => blank
  rw [← trimmed, trimEnd_dropExcess, trimmed]

theorem unbroken_dropExcess (unbroken : Unbroken (Fits width) line) :
    Unbroken (Fits width) (dropExcess width line) where
  kept := by
    constructor
    · rw [wordCells, trimEnd_dropExcess]
      exact unbroken.kept.room
    · obtain ⟨rest, whole⟩ := List.take_prefix _ line.chars
      exact starts_of_front (whole ▸ unbroken.kept.starts)
  smooth := unbroken.smooth.withChars (.front (List.take_prefix _ _))
  sound := sound_dropExcess unbroken.sound width

theorem wrapLine_fits (columns : 2 ≤ width) (unbroken : Unbroken Anchored line) :
    (∀ part ∈ wrapLine true width line, Unbroken (Fits width) part) ∧
      (wrapLine true width line).flatMap (fun part => ink part.chars) = ink line.chars := by
  have layout := divide_layout columns unbroken.kept
  have chars := Styled.cut_chars (divide_ne_nil true width line.chars) layout.whole.symm
  constructor
  · intro part member
    obtain ⟨piece, inside, rfl⟩ := List.mem_map.mp member
    refine unbroken_dropExcess ⟨layout.fits _ ?_, ?_, unbroken.sound.cut _ piece inside⟩
    · rw [← chars]
      exact List.mem_map_of_mem inside
    · exact Styled.forall_cut unbroken.smooth unbroken.smooth.slice _ piece inside
  · have seen : (divide true width line.chars).flatMap ink = ink line.chars := by
      rw [← Text.ink_flatten, layout.whole]
    rw [wrapLine, List.flatMap_map, ← seen]
    conv_rhs => rw [← chars, List.flatMap_map]
    exact List.flatMap_congr fun piece _ => ink_dropExcess width piece

structure Shown (width : Nat) (part made : Styled) : Prop where
  unbroken : Unbroken (cells · ≤ width) made
  seen : ink made.chars = ink part.chars

theorem crop_yields_shown (columns : 0 < width) (unbroken : Unbroken (Fits width) line) :
    Yields (Shown width line) (crop width line) := by
  apply (exists_cropTo columns unbroken.kept).map
  intro made cropped
  refine ⟨⟨cropped.room, unbroken.smooth.withChars cropped.cut, unbroken.sound.withChars ?_⟩, cropped.seen⟩
  intro c member
  rcases cropped.cut.mem member with inside | rfl
  · exact unbroken.sound.chars c inside
  · decide

theorem shown_all {parts made : List Styled} (all : List.Forall₂ (Shown width) parts made) :
    (∀ line ∈ made, Unbroken (cells · ≤ width) line) ∧
      made.flatMap (fun line => ink line.chars) = parts.flatMap fun part => ink part.chars := by
  induction all with
  | nil => simp
  | cons shown later ih =>
    rw [List.forall_mem_cons, List.flatMap_cons, List.flatMap_cons, shown.seen, ih.2]
    exact ⟨⟨shown.unbroken, ih.1⟩, rfl⟩

theorem wrap_yields_shown (columns : 2 ≤ width) (settable : Settable text) :
    Yields (fun made => (∀ line ∈ made, Unbroken (cells · ≤ width) line) ∧
      made.flatMap (fun line => ink line.chars) = ink text.chars) (wrap width text) := by
  have expanded : ∀ line ∈ text.lines, Unbroken Anchored (expandTabs line) :=
    fun line member => unbroken_expandTabs (unbroken_lines settable line member)
  have parts : ∀ part ∈ text.lines.flatMap fun line => wrapLine true width (expandTabs line),
      Unbroken (Fits width) part := by
    intro part member
    obtain ⟨line, inside, member⟩ := List.mem_flatMap.mp member
    exact (wrapLine_fits columns (expanded line inside)).1 part member
  apply (Yields.mapM_forall₂ fun part member => crop_yields_shown (by omega) (parts part member)).mono
  intro made all
  have seen : (text.lines.flatMap fun line => wrapLine true width (expandTabs line)).flatMap
    (fun part => ink part.chars) =
      ink text.chars := by
    rw [List.flatMap_assoc, ← Text.ink_splitOn (by decide : isBlank '\n' = true) text.chars, ← Styled.lines_chars,
      List.flatMap_map]
    apply List.flatMap_congr
    intro line member
    rw [(wrapLine_fits columns (expanded line member)).2, (expandTabs_untabbed line).ink]
  rw [← seen]
  exact shown_all all

/-- Lines of a width at most, each ended, of which all of a text is seen. -/
def Shows (width : Nat) (text shown : List Char) : Prop :=
  ∃ lines : List Line, shown = lines.flatMap (· ++ ['\n']) ∧ (∀ line ∈ lines, cells line ≤ width ∧ '\n' ∉ line) ∧
    lines.flatMap ink = ink text

theorem render_of_settable (columns : 2 ≤ width) (settable : Settable text) :
    Yields (Shows width text.chars) ((Block.text text).render width) := by
  obtain ⟨made, wrapped, unbroken, seen⟩ := wrap_yields_shown columns settable
  have runs : runsOf made = .ok (made.map Styled.runs) :=
    runsOf_of_readable fun line member => (unbroken line member).sound.styles
  have fits : (made.map Styled.runs).mapM (fit width) = .ok ((made.map Styled.runs).map id) := by
    apply mapM_of_ok
    intro runs member
    obtain ⟨line, inside, rfl⟩ := List.mem_map.mp member
    exact fit_of_le ((sumCells_runs_le (unbroken line inside).smooth).trans (unbroken line inside).kept)
  refine ⟨(made.map Styled.chars).flatMap (· ++ ['\n']), ?_, made.map Styled.chars, rfl, ?_, ?_⟩
  · simp [Block.render, Block.lines, wrapped, runs, fits, bind, Except.bind, List.flatMap_map, Styled.runs_flatten]
  · intro line member
    obtain ⟨origin, inside, rfl⟩ := List.mem_map.mp member
    exact ⟨(unbroken origin inside).kept, fun ended => (unbroken origin inside).sound.chars _ ended rfl⟩
  · rw [List.flatMap_map, seen]

theorem Shows.append {a b shown shown' : List Char} (first : Shows width a shown) (second : Shows width b shown') :
    Shows width (a ++ b) (shown ++ shown') := by
  obtain ⟨lines, rfl, narrow, seen⟩ := first
  obtain ⟨lines', rfl, narrow', seen'⟩ := second
  refine ⟨lines ++ lines', by simp, ?_, by simp [seen, seen']⟩
  intro line member
  exact (List.mem_append.mp member).elim (narrow line) (narrow' line)

theorem shows_all {texts shown : List (List Char)} (all : List.Forall₂ (Shows width) texts shown) :
    Shows width texts.flatten shown.flatten := by
  induction all with
  | nil => exact ⟨[], rfl, by simp, rfl⟩
  | cons first later ih => exact first.append ih

theorem Shows.ink_eq {text shown : List Char} (shows : Shows width text shown) : ink shown = ink text := by
  obtain ⟨lines, rfl, -, seen⟩ := shows
  have ended : Text.ink ['\n'] = [] := by decide
  rw [← seen, List.flatMap_def, Text.ink_flatten, List.flatMap_map]
  exact List.flatMap_congr fun line _ => by rw [Text.ink_append, ended, List.append_nil]

theorem Shows.narrow {text shown : List Char} (shows : Shows width text shown) :
    ∀ line ∈ List.splitOn '\n' shown, cells line ≤ width := by
  obtain ⟨lines, rfl, narrow, -⟩ := shows
  have split := Text.splitOn_flatMap (fun line member => (narrow line member).2) []
  rw [List.append_nil] at split
  intro line member
  rw [split] at member
  rcases List.mem_append.mp member with inside | last
  · exact (narrow line inside).1
  · have empty : line = [] := by simpa [List.splitOn] using last
    rw [empty]
    exact Nat.zero_le _

end AlertRange.Screen

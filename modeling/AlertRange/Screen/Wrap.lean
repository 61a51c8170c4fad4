import AlertRange.Screen.Line

namespace AlertRange.Screen

def nextWord? (cs : List Char) : Option (Line × List Char) :=
  let margin := cs.takeWhile Text.isBlank
  let body := cs.dropWhile Text.isBlank
  let word := body.takeWhile (!Text.isBlank ·)
  let tail := body.dropWhile (!Text.isBlank ·)
  if word = [] then none
  else some (margin ++ word ++ tail.takeWhile Text.isBlank, tail.dropWhile Text.isBlank)

theorem nextWord?_append {cs word rest : List Char} (h : nextWord? cs = some (word, rest)) :
    word ++ rest = cs := by
  simp only [nextWord?] at h
  split at h
  · cases h
  · simp only [Option.some.injEq, Prod.mk.injEq] at h
    obtain ⟨rfl, rfl⟩ := h
    simp only [List.append_assoc, List.takeWhile_append_dropWhile]

theorem nextWord?_ne_nil {cs word rest : List Char} (h : nextWord? cs = some (word, rest)) :
    word ≠ [] := by
  simp only [nextWord?] at h
  split at h
  · cases h
  · next nonempty =>
    simp only [Option.some.injEq, Prod.mk.injEq] at h
    obtain ⟨rfl, rfl⟩ := h
    simp [nonempty]

theorem nextWord?_length {cs word rest : List Char} (h : nextWord? cs = some (word, rest)) :
    rest.length < cs.length := by
  have whole := congrArg List.length (nextWord?_append h)
  have nonempty := List.length_pos_iff.mpr (nextWord?_ne_nil h)
  simp only [List.length_append] at whole
  omega

def words (cs : List Char) : List Line :=
  match _h : nextWord? cs with
  | none => []
  | some (word, rest) => word :: words rest
termination_by cs.length
decreasing_by exact nextWord?_length _h

/-- Sets graphemes on pieces of at most `width` cells; the first holds `piece`, which is `used` cells
wide. -/
def setGraphemes (width : Nat) (piece : Line) (used : Nat) : List Text.Grapheme → List Line
  | [] => if used = 0 then [] else [piece]
  | g :: rest =>
    if width < used + g.width then piece :: setGraphemes width g.chars g.width rest
    else setGraphemes width (piece ++ g.chars) (used + g.width) rest

def pieces (width : Nat) (word : Line) : List Line :=
  setGraphemes width [] 0 (Text.graphemes word)

def wordCells (word : Line) : Nat :=
  Text.cells (Text.trimEnd Text.isBlank word)

/-- The lines before the last of `lines`, with `line` at their head unless nothing stands on it. -/
def closing (line : Line) (lines : List Line) : List Line :=
  if line = [] then lines.dropLast.dropWhile List.isEmpty else line :: lines.dropLast

/-- Sets words on lines; the first holds `line`, whose words are `used` cells wide. With `fold`, words
wider than a line are cut into pieces. -/
def setWords (fold : Bool) (width : Nat) (line : Line) (used : Nat) : List Line → List Line
  | [] => [line]
  | word :: rest =>
    if used + wordCells word ≤ width then
      setWords fold width (line ++ word) (used + Text.cells word) rest
    else if fold ∧ width < wordCells word then
      match (pieces width word).getLast? with
      | some last => closing line (pieces width word) ++ setWords fold width last (Text.cells last) rest
      | none => setWords fold width (line ++ word) used rest
    else closing line [word] ++ setWords fold width word (Text.cells word) rest

def divide (fold : Bool) (width : Nat) (cs : List Char) : List Line :=
  match words cs with
  | [] => [cs]
  | all => setWords fold width [] 0 all

def wrapLine (fold : Bool) (width : Nat) (line : Text.Styled) : List Text.Styled :=
  (line.cut ((divide fold width line.chars).map List.length)).map (dropExcess width)

def wrap (width : Nat) (text : Text.Styled) : Except ScreenError (List Text.Styled) :=
  (text.lines.flatMap fun line => wrapLine true width (expandTabs line)).mapM (crop width)

end AlertRange.Screen

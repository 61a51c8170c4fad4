import AlertRange.Text.Cell

namespace AlertRange.Text

structure Grapheme where
  chars : List Char
  width : Nat
  deriving DecidableEq

namespace Grapheme

def ofChar (c : Char) : Grapheme :=
  ⟨[c], charCells c⟩

def append (g : Grapheme) (chars : List Char) (width : Nat) : Grapheme :=
  ⟨g.chars ++ chars, g.width + width⟩

end Grapheme

def graphemesAfter (g : Grapheme) (base : Option Char) : List Char → List Grapheme
  | [] => [g]
  | [c] =>
    if charCells c = 0 then [g.append [c] (addedCells base c)] else [g, .ofChar c]
  | c :: d :: rest =>
    if isJoiner c then graphemesAfter (g.append [c, d] 0) base rest
    else if charCells c = 0 then
      graphemesAfter (g.append [c] (addedCells base c)) (nextBase base c) (d :: rest)
    else g :: graphemesAfter (.ofChar c) (some c) (d :: rest)

def graphemes : List Char → List Grapheme
  | [] => []
  | c :: rest => graphemesAfter (.ofChar c) (nextBase none c) rest

def sumWidths : List Grapheme → Nat
  | [] => 0
  | g :: rest => g.width + sumWidths rest

theorem graphemesAfter_flatMap (g : Grapheme) (base : Option Char) (cs : List Char) :
    (graphemesAfter g base cs).flatMap Grapheme.chars = g.chars ++ cs := by
  fun_induction graphemesAfter g base cs <;>
    simp_all [Grapheme.append, Grapheme.ofChar]

theorem graphemes_flatMap (cs : List Char) : (graphemes cs).flatMap Grapheme.chars = cs := by
  cases cs with
  | nil => rfl
  | cons c rest => exact graphemesAfter_flatMap (.ofChar c) (nextBase none c) rest

theorem isEmojiSelector_charCells {c : Char} (selector : isEmojiSelector c = true) :
    charCells c = 0 := by
  have code : c.toNat = 0xfe0f := by simpa [isEmojiSelector] using selector
  simp only [charCells, covers, code]
  decide

theorem addedCells_of_charCells_ne {c : Char} (wide : charCells c ≠ 0) (base : Option Char) :
    addedCells base c = charCells c ∧ nextBase base c = some c := by
  have other : isEmojiSelector c = false := by
    rw [Bool.eq_false_iff]
    exact fun selector => wide (isEmojiSelector_charCells selector)
  simp [addedCells, nextBase, other, wide]

theorem sumWidths_graphemesAfter (g : Grapheme) (base : Option Char) (cs : List Char) :
    sumWidths (graphemesAfter g base cs) = g.width + cellsAfter base cs := by
  fun_induction graphemesAfter g base cs with
  | case1 => rfl
  | case2 g base c zero => simp [sumWidths, Grapheme.append, cellsAfter]
  | case3 g base c wide =>
    simp [sumWidths, Grapheme.ofChar, cellsAfter, (addedCells_of_charCells_ne wide base).1]
  | case4 g base c d rest joiner ih =>
    rw [ih]
    simp [Grapheme.append, cellsAfter, joiner]
  | case5 g base c d rest other zero ih =>
    rw [ih]
    simp [Grapheme.append, cellsAfter, other, Nat.add_assoc]
  | case6 g base c d rest other wide ih =>
    rw [sumWidths, ih]
    simp [Grapheme.ofChar, cellsAfter, other, (addedCells_of_charCells_ne wide base).1,
      (addedCells_of_charCells_ne wide base).2]

/-- A joiner at the head of a text has nothing before it to join to. -/
theorem sumWidths_graphemes {c : Char} (other : isJoiner c = false) (cs : List Char) :
    sumWidths (graphemes (c :: cs)) = cells (c :: cs) := by
  rw [graphemes, sumWidths_graphemesAfter, cells]
  have first : charCells c = addedCells none c := by
    by_cases selector : isEmojiSelector c = true
    · simp [addedCells, selector, isEmojiSelector_charCells selector]
    · simp [addedCells, selector]
  cases cs with
  | nil => simp [cellsAfter, Grapheme.ofChar, first]
  | cons d rest => simp [cellsAfter, Grapheme.ofChar, first, other]

end AlertRange.Text

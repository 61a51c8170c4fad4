import AlertRange.Proofs.AnchoredText

namespace AlertRange.Text

def Opens (cs : List Char) : Prop :=
  ∀ c ∈ cs.head?, charCells c ≠ 0

theorem Opens.cellsAfter {cs : List Char} (opens : Opens cs) (base : Option Char) :
    cellsAfter base cs = cells cs := by
  cases cs with
  | nil => rfl
  | cons c rest =>
    have wide : charCells c ≠ 0 := opens c rfl
    have other := not_joiner_of_wide wide
    rw [cells, cellsAfter_cons_of_not_joiner other, cellsAfter_cons_of_not_joiner other]
    simp only [addedCells_of_charCells_ne wide]

theorem Opens.append {a : List Char} (opens : Opens a) (some : a ≠ []) (b : List Char) : Opens (a ++ b) := by
  rw [Opens, List.head?_append_of_ne_nil a some]
  exact opens

/-- Graphemes that begin with a character with a width, the first one apart, and that are as wide as they say,
also with others behind them. -/
inductive Measured : List Grapheme → Prop
  | nil : Measured []
  | last {g : Grapheme} (exact : cells g.chars = g.width) : Measured [g]
  | cons {g next : Grapheme} {rest : List Grapheme}
      (closed : ∀ cs, Opens cs → cells (g.chars ++ cs) = g.width + cells cs) (opens : Opens next.chars)
      (wide : 0 < next.width) (later : Measured (next :: rest)) : Measured (g :: next :: rest)

namespace Measured

theorem cells_head {g : Grapheme} {rest : List Grapheme} (measured : Measured (g :: rest)) :
    cells g.chars = g.width := by
  cases measured with
  | last exact => exact exact
  | cons closed => simpa using closed [] (by simp [Opens])

theorem left {a b : List Grapheme} (measured : Measured (a ++ b)) : Measured a := by
  induction a with
  | nil => exact .nil
  | cons g rest ih =>
    cases rest with
    | nil => exact .last measured.cells_head
    | cons next more =>
      cases measured with
      | cons closed opens wide later => exact .cons closed opens wide (ih later)

theorem right {a b : List Grapheme} (measured : Measured (a ++ b)) : Measured b := by
  induction a with
  | nil => exact measured
  | cons g rest ih =>
    apply ih
    rw [List.cons_append] at measured
    generalize rest ++ b = all at measured
    cases measured with
    | last => exact .nil
    | cons closed opens wide later => exact later

theorem chars_ne_nil {g : Grapheme} {rest : List Grapheme} (measured : Measured (g :: rest)) (wide : 0 < g.width) :
    g.chars ≠ [] := by
  intro empty
  have cells := measured.cells_head
  rw [empty, cells_nil] at cells
  omega

theorem opens_of_ne_nil {a b : List Grapheme} {g : Grapheme} (measured : Measured (a ++ g :: b)) (some : a ≠ []) :
    Opens g.chars ∧ 0 < g.width := by
  have split := List.dropLast_append_getLast some
  rw [← split, List.append_assoc, List.singleton_append] at measured
  cases measured.right with
  | cons closed opens wide later => exact ⟨opens, wide⟩

theorem cells_flatMap {all : List Grapheme} (measured : Measured all) :
    cells (all.flatMap Grapheme.chars) = sumWidths all := by
  induction measured with
  | nil => rfl
  | last exact => simpa [sumWidths] using exact
  | @cons g next rest closed opens wide later ih =>
    have opening : Opens ((next :: rest).flatMap Grapheme.chars) := opens.append (later.chars_ne_nil wide) _
    rw [List.flatMap_cons, closed _ opening, ih, ← sumWidths]

end Measured

theorem sumWidths_append (a b : List Grapheme) : sumWidths (a ++ b) = sumWidths a + sumWidths b := by
  induction a with
  | nil => simp [sumWidths]
  | cons g rest ih => rw [List.cons_append, sumWidths, ih, sumWidths, Nat.add_assoc]

/-- A grapheme so far, and the base that the next selector acts on. -/
def Measures (g : Grapheme) (base : Option Char) : Prop :=
  ∀ cs, cells (g.chars ++ cs) = g.width + cellsAfter base cs

theorem measures_ofChar {c : Char} (other : isJoiner c = false) : Measures (.ofChar c) (nextBase none c) := by
  intro cs
  have added : addedCells none c = charCells c := by
    by_cases selector : isEmojiSelector c = true
    · simp [addedCells, selector, isEmojiSelector_charCells selector]
    · simp [addedCells, selector]
  rw [Grapheme.ofChar, List.singleton_append, cells, cellsAfter_cons_of_not_joiner other, added]

/-- The first grapheme goes on with what it holds. -/
theorem exists_graphemesAfter (g : Grapheme) (base : Option Char) (cs : List Char) :
    ∃ first rest, graphemesAfter g base cs = first :: rest ∧ g.chars <+: first.chars ∧ g.width ≤ first.width := by
  have grown (g : Grapheme) {chars : List Char} {width : Nat} {first : Grapheme}
      (longer : (g.append chars width).chars <+: first.chars)
        (wider : (g.append chars width).width ≤ first.width) :
      g.chars <+: first.chars ∧ g.width ≤ first.width :=
    ⟨(List.prefix_append _ _).trans longer, (Nat.le_add_right _ _).trans wider⟩
  fun_induction graphemesAfter g base cs with
  | case1 g base => exact ⟨g, [], rfl, List.prefix_rfl, Nat.le_refl _⟩
  | case2 g base c zero => exact ⟨_, [], rfl, grown g List.prefix_rfl (Nat.le_refl _)⟩
  | case3 g base c wide => exact ⟨g, _, rfl, List.prefix_rfl, Nat.le_refl _⟩
  | case4 g base c d rest joiner ih =>
    obtain ⟨first, more, equal, longer, wider⟩ := ih
    exact ⟨first, more, equal, grown g longer wider⟩
  | case5 g base c d rest other zero ih =>
    obtain ⟨first, more, equal, longer, wider⟩ := ih
    exact ⟨first, more, equal, grown g longer wider⟩
  | case6 g base c d rest other wide ih => exact ⟨g, _, rfl, List.prefix_rfl, Nat.le_refl _⟩

theorem chars_ne_nil_of_mem_graphemesAfter {g : Grapheme} {base : Option Char} {cs : List Char}
    (some : g.chars ≠ []) :
    ∀ part ∈ graphemesAfter g base cs, part.chars ≠ [] := by
  fun_induction graphemesAfter g base cs with
  | case1 => simpa using some
  | case2 => simp [Grapheme.append]
  | case3 => simp [some, Grapheme.ofChar]
  | case4 g base c d rest joiner ih => exact ih (by simp [Grapheme.append])
  | case5 g base c d rest other zero ih => exact ih (by simp [Grapheme.append])
  | case6 g base c d rest other wide ih =>
    intro part member
    rcases List.mem_cons.mp member with rfl | later
    · exact some
    · exact ih (by simp [Grapheme.ofChar]) part later

theorem chars_ne_nil_of_mem_graphemes {cs : List Char} : ∀ part ∈ graphemes cs, part.chars ≠ [] := by
  cases cs with
  | nil => simp [graphemes]
  | cons c rest => exact chars_ne_nil_of_mem_graphemesAfter (by simp [Grapheme.ofChar])

theorem measured_graphemesAfter {g : Grapheme} {base : Option Char} (measures : Measures g base) (cs : List Char) :
    Measured (graphemesAfter g base cs) := by
  have exact {g : Grapheme} {base : Option Char} (measures : Measures g base) : cells g.chars = g.width := by
    simpa [cellsAfter] using measures []
  have closed {g : Grapheme} {base : Option Char} (measures : Measures g base) (cs : List Char)
    (opens : Opens cs) :
      cells (g.chars ++ cs) = g.width + cells cs := by
    rw [measures cs, opens.cellsAfter]
  have fresh {c : Char} (wide : charCells c ≠ 0) : Measures (.ofChar c) (some c) := by
    rw [← (addedCells_of_charCells_ne wide none).2]
    exact measures_ofChar (not_joiner_of_wide wide)
  have step {g : Grapheme} {base : Option Char} (measures : Measures g base) {c : Char}
    (other : isJoiner c = false) :
      Measures (g.append [c] (addedCells base c)) (nextBase base c) := by
    intro cs
    rw [Grapheme.append, List.append_assoc, measures, List.singleton_append, cellsAfter_cons_of_not_joiner other,
      Nat.add_assoc]
  fun_induction graphemesAfter g base cs with
  | case1 g base => exact .last (exact measures)
  | case2 g base c zero =>
    apply Measured.last
    rw [Grapheme.append, measures]
    rfl
  | case3 g base c wide =>
    exact .cons (closed measures) (fun d head => by cases head; exact wide) (Nat.pos_of_ne_zero wide)
      (.last (exact (fresh wide)))
  | case4 g base c d rest joiner ih =>
    apply ih
    intro cs
    rw [Grapheme.append, List.append_assoc, measures]
    simp [cellsAfter, joiner]
  | case5 g base c d rest other zero ih => exact ih (step measures (by simpa using other))
  | case6 g base c d rest other wide ih =>
    obtain ⟨first, more, equal, chars, width⟩ := exists_graphemesAfter (.ofChar c) (some c) (d :: rest)
    have later := ih (fresh wide)
    rw [equal] at later ⊢
    obtain ⟨after, same⟩ := chars
    refine .cons (closed measures) ?_ (Nat.lt_of_lt_of_le (Nat.pos_of_ne_zero wide) width) later
    rw [← same]
    exact fun e head => by cases head; exact wide

theorem measured_graphemes {cs : List Char} (opening : cs.head?.all (!isJoiner ·) = true) :
    Measured (graphemes cs) := by
  cases cs with
  | nil => exact .nil
  | cons c rest => exact measured_graphemesAfter (measures_ofChar (by simpa using opening)) rest

theorem charCells_le_of_isEmojiBase {c : Char} (known : isEmojiBase c = true) : charCells c ≤ 1 := by
  have apart : ∀ range ∈ emojiBaseTable, ∀ wide ∈ doubleWidthTable, range.2 < wide.1 ∨ wide.2 < range.1 := by
    decide +kernel
  have narrow : covers doubleWidthTable c = false := by
    rw [Bool.eq_false_iff]
    intro double
    simp only [isEmojiBase, covers, List.any_eq_true, Bool.and_eq_true, decide_eq_true_eq] at known double
    obtain ⟨range, member, low, high⟩ := known
    obtain ⟨wide, member', low', high'⟩ := double
    have := apart range member wide member'
    omega
  simp only [charCells, narrow]
  split
  · exact Nat.le_refl 1
  · split <;> simp

theorem width_le_of_mem_graphemesAfter {g : Grapheme} {base : Option Char} {cs : List Char} (narrow : g.width ≤ 2)
    (based : base.any isEmojiBase = true → g.width ≤ 1) : ∀ part ∈ graphemesAfter g base cs, part.width ≤ 2 := by
  have based_some (c : Char) (known : (some c).any isEmojiBase = true) : (Grapheme.ofChar c).width ≤ 1 :=
    charCells_le_of_isEmojiBase (by simpa using known)
  have added {g : Grapheme} {base : Option Char} {c : Char} (narrow : g.width ≤ 2)
      (based : base.any isEmojiBase = true → g.width ≤ 1) (zero : charCells c = 0) :
      g.width + addedCells base c ≤ 2 := by
    unfold addedCells
    split
    · split
      · next known => have := based known; omega
      · exact narrow
    · omega
  fun_induction graphemesAfter g base cs with
  | case1 => simpa using narrow
  | case2 g base c zero => simpa [Grapheme.append] using added narrow based zero
  | case3 g base c wide => simpa [narrow, Grapheme.ofChar] using charCells_le c
  | case4 g base c d rest joiner ih => exact ih narrow based
  | case5 g base c d rest other zero ih =>
    apply ih (added narrow based zero)
    intro known
    have plain : isEmojiSelector c = false := by
      rw [Bool.eq_false_iff]
      intro selector
      simp [nextBase, selector] at known
    have same : addedCells base c = 0 := by simp [addedCells, plain, zero]
    simp only [nextBase, plain, zero] at known
    have := based known
    simp only [Grapheme.append, same]
    omega
  | case6 g base c d rest other wide ih =>
    intro part member
    rcases List.mem_cons.mp member with rfl | later
    · exact narrow
    · exact ih (charCells_le c) (based_some c) part later

theorem width_le_of_mem_graphemes {cs : List Char} : ∀ part ∈ graphemes cs, part.width ≤ 2 := by
  cases cs with
  | nil => simp [graphemes]
  | cons c rest =>
    apply width_le_of_mem_graphemesAfter (charCells_le c)
    intro known
    unfold nextBase at known
    split at known
    · cases known
    · split at known
      · cases known
      · exact charCells_le_of_isEmojiBase (by simpa using known)

theorem graphemesAfter_cons_of_zero {g : Grapheme} {base : Option Char} {c : Char} (other : isJoiner c = false)
    (zero : charCells c = 0) (rest : List Char) :
    graphemesAfter g base (c :: rest) =
      graphemesAfter (g.append [c] (addedCells base c)) (nextBase base c) rest := by
  cases rest <;> simp [graphemesAfter, other, zero]

theorem graphemesAfter_cons_of_wide {g : Grapheme} {base : Option Char} {c : Char} (wide : charCells c ≠ 0)
    (rest : List Char) : graphemesAfter g base (c :: rest) = g :: graphemesAfter (.ofChar c) (some c) rest := by
  cases rest <;> simp [graphemesAfter, not_joiner_of_wide wide, wide]

/-- White space behind a text adds to its last grapheme what has no width, and otherwise graphemes of its own. -/
structure Continued (all : List Grapheme) (chars : List Char) (width : Nat) (front back : List Grapheme) :
    Prop where
  whole : all = front ++ back
  front_width : sumWidths front = width
  front_ink : ink (front.flatMap Grapheme.chars) = ink chars
  back_ink : ink (back.flatMap Grapheme.chars) = []

theorem Continued.cons {all front back : List Grapheme} {chars : List Char} {width : Nat}
    (continued : Continued all chars width front back) (g : Grapheme) :
    Continued (g :: all) (g.chars ++ chars) (g.width + width) (g :: front) back where
  whole := by rw [continued.whole, List.cons_append]
  front_width := by rw [sumWidths, continued.front_width]
  front_ink := by rw [List.flatMap_cons, ink_append, continued.front_ink, ink_append]
  back_ink := continued.back_ink

theorem Continued.of_eq {all front back : List Grapheme} {chars chars' : List Char} {width width' : Nat}
    (continued : Continued all chars width front back) (same : ink chars = ink chars') (same' : width = width') :
    Continued all chars' width' front back :=
  ⟨continued.whole, continued.front_width.trans same', continued.front_ink.trans same, continued.back_ink⟩

theorem exists_continued_of_blank (g : Grapheme) (base : Option Char) {blank : List Char}
    (all : ∀ c ∈ blank, isBlank c = true) :
    ∃ front back, Continued (graphemesAfter g base blank) g.chars g.width front back := by
  induction blank generalizing g base with
  | nil => exact ⟨[g], [], by simp [graphemesAfter], by simp [sumWidths], by simp, rfl⟩
  | cons c rest ih =>
    have first := all c List.mem_cons_self
    have later := fun d member => all d (List.mem_cons_of_mem c member)
    have plain := isPlain_of_blank first
    by_cases zero : charCells c = 0
    · obtain ⟨front, back, continued⟩ := ih (g.append [c] (addedCells base c)) (nextBase base c) later
      refine ⟨front, back, ?_⟩
      rw [graphemesAfter_cons_of_zero (not_joiner_of_plain plain) zero]
      apply continued.of_eq
      · simp [Grapheme.append, ink, first]
      · have other : isEmojiSelector c = false := by
          simp only [isPlain, Bool.and_eq_true, Bool.not_eq_true'] at plain
          exact plain.2
        simp [Grapheme.append, addedCells, other, zero]
    · refine ⟨[g], graphemesAfter (.ofChar c) (some c) rest, ?_, by simp [sumWidths], by simp, ?_⟩
      · rw [graphemesAfter_cons_of_wide zero]
        rfl
      · rw [graphemesAfter_flatMap]
        exact ink_of_blank all

theorem exists_continued (g : Grapheme) (base : Option Char) (cs : List Char) {blank : List Char}
    (all : ∀ c ∈ blank, isBlank c = true) :
    ∃ front back, Continued (graphemesAfter g base (cs ++ blank)) (g.chars ++ cs) (g.width + cellsAfter base cs)
      front back := by
  fun_induction graphemesAfter g base cs with
  | case1 g base => simpa [cellsAfter] using exists_continued_of_blank g base all
  | case2 g base c zero =>
    by_cases joiner : isJoiner c = true
    · -- the joiner takes the first blank to its grapheme
      have nothing := addedCells_of_joiner joiner base
      cases blank with
      | nil =>
        refine ⟨[g.append [c] 0], [], ?_, ?_, by simp [Grapheme.append], rfl⟩
        · simp [graphemesAfter, zero, nothing]
        · simp [sumWidths, cellsAfter, nothing, Grapheme.append]
      | cons d rest =>
        have first := all d List.mem_cons_self
        obtain ⟨front, back, continued⟩ :=
          exists_continued_of_blank (g.append [c, d] 0) base fun e member => all e (List.mem_cons_of_mem d member)
        refine ⟨front, back, ?_⟩
        simp only [List.singleton_append, graphemesAfter, joiner, if_true]
        exact continued.of_eq (by simp [Grapheme.append, ink, List.filter_cons, first])
          (by simp [Grapheme.append, cellsAfter, nothing])
    · rw [List.singleton_append, graphemesAfter_cons_of_zero (by simpa using joiner) zero]
      exact exists_continued_of_blank _ _ all
  | case3 g base c wide =>
    obtain ⟨front, back, continued⟩ := exists_continued_of_blank (.ofChar c) (some c) all
    refine ⟨g :: front, back, ?_⟩
    rw [List.singleton_append, graphemesAfter_cons_of_wide wide]
    exact (continued.cons g).of_eq rfl (by simp [Grapheme.ofChar, cellsAfter, addedCells_of_charCells_ne wide])
  | case4 g base c d rest joiner ih =>
    obtain ⟨front, back, continued⟩ := ih
    refine ⟨front, back, ?_⟩
    simp only [List.cons_append, graphemesAfter, joiner, if_true]
    exact continued.of_eq (by simp [Grapheme.append]) (by simp [Grapheme.append, cellsAfter, joiner])
  | case5 g base c d rest other zero ih =>
    obtain ⟨front, back, continued⟩ := ih
    refine ⟨front, back, ?_⟩
    rw [List.cons_append, graphemesAfter_cons_of_zero (by simpa using other) zero]
    exact continued.of_eq (by simp [Grapheme.append]) (by simp [Grapheme.append, cellsAfter, other, Nat.add_assoc])
  | case6 g base c d rest other wide ih =>
    obtain ⟨front, back, continued⟩ := ih
    refine ⟨g :: front, back, ?_⟩
    rw [List.cons_append, graphemesAfter_cons_of_wide wide]
    exact (continued.cons g).of_eq (by simp [Grapheme.ofChar])
      (by simp [Grapheme.ofChar, cellsAfter, other, addedCells_of_charCells_ne wide])

theorem exists_graphemes_of_trimEnd {cs : List Char} (opening : cs.head?.all (!isJoiner ·) = true) :
    ∃ front back, Continued (graphemes cs) (trimEnd isBlank cs) (cells (trimEnd isBlank cs)) front back := by
  have split := trimEnd_append isBlank cs
  have blank : ∀ c ∈ (cs.reverse.takeWhile isBlank).reverse, isBlank c = true :=
    fun c member => List.mem_takeWhile_imp (List.mem_reverse.mp member)
  generalize (cs.reverse.takeWhile isBlank).reverse = after at split blank
  cases core : trimEnd isBlank cs with
  | nil =>
    rw [core, List.nil_append] at split
    refine ⟨[], graphemes cs, rfl, rfl, rfl, ?_⟩
    rw [graphemes_flatMap, ← split]
    exact ink_of_blank blank
  | cons c rest =>
    rw [core, List.cons_append] at split
    have other : isJoiner c = false := by simpa [← split] using opening
    rw [← split]
    obtain ⟨front, back, continued⟩ := exists_continued (.ofChar c) (nextBase none c) rest blank
    exact ⟨front, back, continued.of_eq rfl (measures_ofChar other rest).symm⟩

end AlertRange.Text

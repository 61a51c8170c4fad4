import Mathlib
import AlertRange.Text.Blank
import AlertRange.Text.Grapheme
import AlertRange.Proofs.Trimming

namespace AlertRange.Text

/-! ### Ink -/

def ink (cs : List Char) : List Char :=
  cs.filter (!isBlank ·)

@[simp] theorem ink_append (a b : List Char) : ink (a ++ b) = ink a ++ ink b :=
  List.filter_append a b

theorem ink_of_blank {cs : List Char} (blank : ∀ c ∈ cs, isBlank c = true) : ink cs = [] := by
  simpa [ink] using blank

theorem ink_flatten (lines : List (List Char)) : ink lines.flatten = lines.flatMap ink := by
  rw [ink, List.filter_flatten, List.flatMap_def]
  rfl

theorem ink_splitOn {c : Char} (blank : isBlank c = true) (cs : List Char) :
    (List.splitOn c cs).flatMap ink = ink cs := by
  have whole (pieces : List (List Char)) : ink ([c].intercalate pieces) = pieces.flatMap ink := by
    induction pieces with
    | nil => rfl
    | cons piece rest ih =>
      have nothing : ink [c] = [] := ink_of_blank (by simpa using blank)
      cases rest with
      | nil => simp
      | cons next more =>
        rw [List.intercalate_cons_cons, ink_append, ink_append, nothing, List.append_nil, ih]
        rfl
  rw [← whole, List.intercalate_splitOn]

theorem ink_trimEnd {drop : Char → Bool} (blank : ∀ c, drop c = true → isBlank c = true) (cs : List Char) :
    ink (trimEnd drop cs) = ink cs :=
  filter_trimEnd (fun c dropped => by rw [blank c dropped, Bool.not_true]) cs

/-! ### Anchors -/

def holds (held : Bool) (c : Char) : Bool :=
  !isBlank c && (held || charCells c != 0)

/-- Whether each joiner and selector stands behind a character with a width in its word; `held` tells it of
the word that the text goes on with. -/
def isAnchored (held : Bool) : List Char → Bool
  | [] => true
  | c :: rest => (held || isPlain c) && isAnchored (holds held c) rest

/-- A text whose joiners and selectors have something to act on. -/
def Anchored (cs : List Char) : Prop :=
  isAnchored false cs = true

instance : DecidablePred Anchored :=
  fun cs => inferInstanceAs (Decidable (isAnchored false cs = true))

theorem isAnchored_append (held : Bool) (a b : List Char) :
    isAnchored held (a ++ b) = (isAnchored held a && isAnchored (a.foldl holds held) b) := by
  induction a generalizing held with
  | nil => simp [isAnchored]
  | cons c rest ih => simp [isAnchored, ih, Bool.and_assoc]

theorem isAnchored_of_anchored {cs : List Char} (anchored : Anchored cs) (held : Bool) :
    isAnchored held cs = true := by
  have mono {cs : List Char} {held held' : Bool} (le : held = true → held' = true)
    (anchored : isAnchored held cs = true) :
      isAnchored held' cs = true := by
    induction cs generalizing held held' with
    | nil => rfl
    | cons c rest ih =>
      simp only [isAnchored, Bool.and_eq_true, Bool.or_eq_true] at anchored ⊢
      refine ⟨anchored.1.imp_left le, ih (fun some => ?_) anchored.2⟩
      simp only [holds, Bool.and_eq_true, Bool.or_eq_true] at some ⊢
      exact ⟨some.1, some.2.imp_left le⟩
  exact mono (by simp) anchored

theorem anchored_of_plain {cs : List Char} (plain : ∀ c ∈ cs, isPlain c = true) : Anchored cs := by
  induction cs with
  | nil => rfl
  | cons c rest ih =>
    rw [Anchored, isAnchored, plain c List.mem_cons_self, Bool.or_true, Bool.true_and]
    exact isAnchored_of_anchored (ih fun d member => plain d (List.mem_cons_of_mem c member)) _

theorem Anchored.left {a b : List Char} (anchored : Anchored (a ++ b)) : Anchored a := by
  rw [Anchored, isAnchored_append, Bool.and_eq_true] at anchored
  exact anchored.1

theorem Anchored.append {a b : List Char} (first : Anchored a) (second : Anchored b) : Anchored (a ++ b) := by
  rw [Anchored, isAnchored_append, Bool.and_eq_true]
  exact ⟨first, isAnchored_of_anchored second _⟩

theorem Anchored.right_of_blank {a b : List Char} (anchored : Anchored (a ++ b)) (c : Char)
    (last : a.getLast? = some c) (blank : isBlank c = true) : Anchored b := by
  obtain ⟨before, rfl⟩ := List.getLast?_eq_some_iff.mp last
  rw [Anchored, isAnchored_append, Bool.and_eq_true] at anchored
  have ended : (before ++ [c]).foldl holds false = false := by simp [holds, blank]
  rw [ended] at anchored
  exact anchored.2

theorem not_joiner_of_plain {c : Char} (plain : isPlain c = true) : isJoiner c = false := by
  simp only [isPlain, Bool.and_eq_true, Bool.not_eq_true'] at plain
  exact plain.1

theorem isPlain_of_blank {c : Char} (blank : isBlank c = true) : isPlain c = true := by
  have other (code : Nat) (hidden : isBlank (Char.ofNat code) = false) : c.toNat ≠ code := by
    rintro rfl
    rw [Char.ofNat_toNat, blank] at hidden
    cases hidden
  simp [isPlain, isJoiner, isEmojiSelector, other 0x200d (by decide), other 0xfe0f (by decide)]

theorem Anchored.head {c : Char} {rest : List Char} (anchored : Anchored (c :: rest)) : isPlain c = true := by
  simp only [Anchored, isAnchored, Bool.false_or, Bool.and_eq_true] at anchored
  exact anchored.1

/-! ### Cells -/

def endsInJoiner (cs : List Char) : Bool :=
  cs.getLast?.any isJoiner

theorem endsInJoiner_append {a b : List Char} (some : b ≠ []) : endsInJoiner (a ++ b) = endsInJoiner b := by
  rw [endsInJoiner, endsInJoiner, List.getLast?_append_of_ne_nil a some]

theorem cellsAfter_cons_of_not_joiner {c : Char} (other : isJoiner c = false) (base : Option Char)
    (rest : List Char) :
    cellsAfter base (c :: rest) = addedCells base c + cellsAfter (nextBase base c) rest := by
  cases rest with
  | nil => simp [cellsAfter]
  | cons d rest => simp [cellsAfter, other]

theorem Anchored.cellsAfter {cs : List Char} (anchored : Anchored cs) (base : Option Char) :
    cellsAfter base cs = cells cs := by
  induction cs generalizing base with
  | nil => rfl
  | cons c rest ih =>
    have plain := anchored.head
    rw [cells, cellsAfter_cons plain, cellsAfter_cons plain]
    by_cases zero : charCells c = 0
    · -- the word has no character with a width yet, so the rest is anchored by itself
      have later : Anchored rest := by
        simp only [Anchored, isAnchored, holds, zero, Bool.and_eq_true] at anchored
        simpa [Anchored] using anchored.2
      rw [ih later, ih later]
    · rw [(addedCells_of_charCells_ne zero base).2, (addedCells_of_charCells_ne zero none).2]

/-- A text without a joiner at its end leaves only the base of a selector to what comes after it. -/
theorem exists_cellsAfter_append {a : List Char} (closed : endsInJoiner a = false) (base : Option Char) :
    ∃ base', ∀ b, cellsAfter base (a ++ b) = cellsAfter base a + cellsAfter base' b := by
  fun_induction cellsAfter base a with
  | case1 base => exact ⟨base, fun b => by simp⟩
  | case2 base c =>
    have other : isJoiner c = false := by simpa [endsInJoiner] using closed
    exact ⟨nextBase base c, cellsAfter_cons_of_not_joiner other base⟩
  | case3 base c d rest joiner ih =>
    have later : endsInJoiner rest = false := by
      by_cases last : rest = []
      · rw [last]
        rfl
      · rwa [← endsInJoiner_append (a := [c, d]) last]
    obtain ⟨base', whole⟩ := ih later
    exact ⟨base', fun b => by simp [cellsAfter, joiner, whole]⟩
  | case4 base c d rest other ih =>
    have later : endsInJoiner (d :: rest) = false := by
      rwa [← endsInJoiner_append (a := [c]) (by simp)]
    obtain ⟨base', whole⟩ := ih later
    refine ⟨base', fun b => ?_⟩
    rw [List.cons_append, cellsAfter_cons_of_not_joiner (by simpa using other), whole, Nat.add_assoc]

theorem charCells_of_joiner {c : Char} (joiner : isJoiner c = true) : charCells c = 0 := by
  have code : c.toNat = 0x200d := by simpa [isJoiner] using joiner
  simp only [charCells, covers, code]
  decide

theorem not_joiner_of_wide {c : Char} (wide : charCells c ≠ 0) : isJoiner c = false := by
  rw [Bool.eq_false_iff]
  exact fun joiner => wide (charCells_of_joiner joiner)

theorem addedCells_of_joiner {c : Char} (joiner : isJoiner c = true) (base : Option Char) :
    addedCells base c = 0 := by
  have other : isEmojiSelector c = false := by
    simp only [isJoiner, isEmojiSelector, decide_eq_true_eq, decide_eq_false_iff_not] at joiner ⊢
    omega
  simp [addedCells, other, charCells_of_joiner joiner]

theorem cells_append {a b : List Char} (closed : endsInJoiner a = false) (anchored : Anchored b) :
    cells (a ++ b) = cells a + cells b := by
  obtain ⟨base, whole⟩ := exists_cellsAfter_append closed none
  rw [cells, whole, anchored.cellsAfter]
  rfl

theorem cells_le_cellsAfter (base : Option Char) (cs : List Char) : cells cs ≤ cellsAfter base cs := by
  have added (base : Option Char) (c : Char) : addedCells none c ≤ addedCells base c := by
    unfold addedCells
    split <;> simp
  have next (base : Option Char) (c : Char) : nextBase none c = none ∨ nextBase none c = nextBase base c := by
    unfold nextBase
    split
    · exact Or.inl rfl
    · split <;> simp
  rw [cells]
  fun_induction cellsAfter base cs with
  | case1 => exact Nat.le_refl 0
  | case2 base c => exact added base c
  | case3 base c d rest joiner ih => simpa [cellsAfter, joiner] using ih
  | case4 base c d rest other ih =>
    rw [cellsAfter_cons_of_not_joiner (by simpa using other)]
    have first := added base c
    rcases next base c with same | same
    · rw [same]
      omega
    · rw [same]
      omega

theorem cells_add_le {a : List Char} (closed : endsInJoiner a = false) (b : List Char) :
    cells a + cells b ≤ cells (a ++ b) := by
  obtain ⟨base, whole⟩ := exists_cellsAfter_append closed none
  rw [cells, cells.eq_def (a ++ b), whole]
  exact Nat.add_le_add_left (cells_le_cellsAfter base b) _

theorem cells_le_append (a b : List Char) : cells a ≤ cells (a ++ b) := by
  have after (base : Option Char) : cellsAfter base a ≤ cellsAfter base (a ++ b) := by
    fun_induction cellsAfter base a with
    | case1 => exact Nat.zero_le _
    | case2 base c =>
      by_cases joiner : isJoiner c = true
      · rw [addedCells_of_joiner joiner]
        exact Nat.zero_le _
      · rw [List.singleton_append, cellsAfter_cons_of_not_joiner (by simpa using joiner)]
        exact Nat.le_add_right _ _
    | case3 base c d rest joiner ih => simpa [cellsAfter, joiner] using ih
    | case4 base c d rest other ih =>
      rw [List.cons_append, cellsAfter_cons_of_not_joiner (c := c) (by simpa using other)]
      exact Nat.add_le_add_left ih _
  exact after none

end AlertRange.Text

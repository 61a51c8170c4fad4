import Mathlib
import AlertRange.Text.Trim

namespace AlertRange.Text

def TrimsTo (drop : Char → Bool) (text core : List Char) : Prop :=
  ∃ before after, text = before ++ (core ++ after) ∧ (∀ c ∈ before, drop c = true) ∧ (∀ c ∈ after, drop c = true) ∧
    (∀ c, core.head? = some c → drop c = false) ∧ ∀ c, core.getLast? = some c → drop c = false

theorem dropWhile_of_head {drop : Char → Bool} {cs : List Char}
    (kept : ∀ c, cs.head? = some c → drop c = false) : cs.dropWhile drop = cs := by
  cases cs with
  | nil => rfl
  | cons c rest => rw [List.dropWhile_cons_of_neg (by simp [kept c rfl])]

theorem dropWhile_append {drop : Char → Bool} {before rest : List Char} (all : ∀ c ∈ before, drop c = true)
    (kept : ∀ c, rest.head? = some c → drop c = false) : (before ++ rest).dropWhile drop = rest := by
  rw [List.dropWhile_append_of_pos all]
  exact dropWhile_of_head kept

theorem trimEnd_append_of_all {drop : Char → Bool} {core after : List Char} (all : ∀ c ∈ after, drop c = true)
    (kept : ∀ c, core.getLast? = some c → drop c = false) : trimEnd drop (core ++ after) = core := by
  rw [trimEnd, List.reverse_append, dropWhile_append, List.reverse_reverse]
  · intro c member
    exact all c (List.mem_reverse.mp member)
  · rw [List.head?_reverse]
    exact kept

theorem trimEnd_append_of_some {drop : Char → Bool} (before : List Char) {after : List Char}
    (some : ¬ ∀ c ∈ after, drop c = true) : trimEnd drop (before ++ after) = before ++ trimEnd drop after := by
  have letters : after.reverse.dropWhile drop ≠ [] := by
    rw [ne_eq, List.dropWhile_eq_nil_iff]
    simpa using some
  rw [trimEnd, List.reverse_append, List.dropWhile_append, if_neg (by simpa using letters), List.reverse_append,
    List.reverse_reverse]
  rfl

theorem prefix_trimEnd {drop : Char → Bool} {core cs : List Char} (begins : core <+: cs)
    (kept : ∀ c, core.getLast? = some c → drop c = false) : core <+: trimEnd drop cs := by
  obtain ⟨after, rfl⟩ := begins
  by_cases all : ∀ c ∈ after, drop c = true
  · rw [trimEnd_append_of_all all kept]
  · rw [trimEnd_append_of_some core all]
    exact List.prefix_append _ _

theorem head_dropWhile {drop : Char → Bool} {cs : List Char} {c : Char}
    (head : (cs.dropWhile drop).head? = some c) : drop c = false := by
  have kept := List.head?_dropWhile_not drop cs
  rw [head] at kept
  exact kept

theorem filter_trimEnd {drop keep : Char → Bool} (other : ∀ c, drop c = true → keep c = false) (cs : List Char) :
    (trimEnd drop cs).filter keep = cs.filter keep := by
  have dropped : ((cs.reverse.takeWhile drop).reverse).filter keep = [] := by
    rw [List.filter_eq_nil_iff]
    intro c member
    rw [other c (List.mem_takeWhile_imp (List.mem_reverse.mp member))]
    exact Bool.false_ne_true
  conv_rhs => rw [← trimEnd_append drop cs, List.filter_append, dropped, List.append_nil]

theorem trimEnd_take {drop : Char → Bool} {cs : List Char} {n : Nat} (enough : (trimEnd drop cs).length ≤ n) :
    trimEnd drop (cs.take n) = trimEnd drop cs := by
  have split := trimEnd_append drop cs
  have front : cs.take n = trimEnd drop cs ++ (cs.reverse.takeWhile drop).reverse.take
    (n - (trimEnd drop cs).length) := by
    conv_lhs => rw [← split, List.take_append, List.take_of_length_le enough]
  rw [front]
  apply trimEnd_append_of_all
  · intro c member
    exact List.mem_takeWhile_imp (List.mem_reverse.mp (List.mem_of_mem_take member))
  · intro c last
    rw [trimEnd, List.getLast?_reverse] at last
    exact head_dropWhile last

theorem trimsTo_iff {drop : Char → Bool} {text core : List Char} : TrimsTo drop text core ↔
    trim drop text = core := by
  constructor
  · rintro ⟨before, after, rfl, allBefore, allAfter, first, last⟩
    cases core with
    | nil =>
      have nothing : (before ++ ([] ++ after)).dropWhile drop = [] := by
        rw [List.nil_append, List.dropWhile_append_of_pos allBefore]
        exact List.dropWhile_eq_nil_iff.mpr allAfter
      rw [trim, nothing]
      rfl
    | cons c rest =>
      rw [trim, dropWhile_append allBefore]
      · exact trimEnd_append_of_all allAfter last
      · intro first' head
        exact first first' head
  · rintro rfl
    have split := trimEnd_append drop (text.dropWhile drop)
    refine ⟨text.takeWhile drop, ((text.dropWhile drop).reverse.takeWhile drop).reverse, ?_, ?_, ?_, ?_, ?_⟩
    · rw [trim, split, List.takeWhile_append_dropWhile]
    · intro c member
      exact List.mem_takeWhile_imp member
    · intro c member
      exact List.mem_takeWhile_imp (List.mem_reverse.mp member)
    · intro c head
      have whole : (text.dropWhile drop).head? = some c := by
        rw [← split, List.head?_append, ← trim, head]
        rfl
      exact head_dropWhile whole
    · intro c last
      rw [trim, trimEnd, List.getLast?_reverse] at last
      exact head_dropWhile last

theorem trimsTo_self {drop : Char → Bool} {cs : List Char} (kept : ∀ c ∈ cs, drop c = false) :
    TrimsTo drop cs cs := by
  refine ⟨[], [], by simp, by simp, by simp, ?_, ?_⟩
  · intro c head
    exact kept c (List.mem_of_mem_head? head)
  · intro c last
    exact kept c (List.mem_of_mem_getLast? last)

end AlertRange.Text

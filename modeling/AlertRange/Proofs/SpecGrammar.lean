import AlertRange.Proofs.ExactNumber
import AlertRange.Proofs.NumeralGrammar
import AlertRange.Proofs.Trimming
import AlertRange.Spec.Parser

namespace AlertRange.Spec

open Numeral (Dialect)

inductive LowerBound : List Char → Binary64 → Prop
  | unbounded : LowerBound ['~'] (.infinite true)
  | number {cs n x} (token : boundDialect.Number cs n) (rounds : n.RoundsTo x) : LowerBound cs x

inductive Body : List Char → Binary64 → Binary64 → Prop
  | empty : Body [] .zero .infinity
  | upper {cs n x} (token : boundDialect.Number cs n) (rounds : n.RoundsTo x) : Body cs .zero x
  | lower {cs x} (low : LowerBound cs x) : Body (cs ++ [':']) x .infinity
  | both {cs x up n y} (low : LowerBound cs x) (token : boundDialect.Number up n) (rounds : n.RoundsTo y) :
      Body (cs ++ ':' :: up) x y

/-- What a text without margins says: whether it is inverted, and its bounds. -/
inductive Reads : List Char → Bool → Binary64 → Binary64 → Prop
  | plain {cs x y} (body : Body cs x y) : Reads cs false x y
  | inverted {cs x y} (body : Body cs x y) : Reads ('@' :: cs) true x y

theorem boundDialect_regular : boundDialect.Regular :=
  Dialect.regular_digitValue? false

/-! ### Bounds -/

theorem toBinary64_ne_nan {cs : List Char} {n : Numeral} (token : boundDialect.Number cs n) :
    n.toBinary64 ≠ .nan :=
  ((Numeral.roundsTo_iff (Dialect.number_ne_nan token)).mpr rfl).ne_nan

theorem LowerBound.ne_nan {cs : List Char} {x : Binary64} (low : LowerBound cs x) : x ≠ .nan := by
  cases low with
  | unbounded => exact nofun
  | number token rounds => exact rounds.ne_nan

theorem Body.ne_nan {cs : List Char} {x y : Binary64} (body : Body cs x y) : x ≠ .nan ∧ y ≠ .nan := by
  cases body with
  | empty => exact ⟨nofun, nofun⟩
  | upper token rounds => exact ⟨nofun, rounds.ne_nan⟩
  | lower low => exact ⟨low.ne_nan, nofun⟩
  | both low token rounds => exact ⟨low.ne_nan, rounds.ne_nan⟩

theorem readBound_eq_ok_iff {side : Side} {cs : List Char} {x : Binary64} :
    readBound side cs = .ok x ↔ ∃ n, boundDialect.Number cs n ∧ n.RoundsTo x := by
  unfold readBound
  constructor
  · intro found
    split at found
    · next n read =>
      cases found
      have token := (Dialect.read?_eq_some_iff boundDialect_regular rfl).mp read
      exact ⟨n, token, (Numeral.roundsTo_iff (Dialect.number_ne_nan token)).mpr rfl⟩
    · cases found
  · rintro ⟨n, token, rounds⟩
    have read := (Dialect.read?_eq_some_iff boundDialect_regular rfl).mpr token
    rw [(Numeral.roundsTo_iff (Dialect.number_ne_nan token)).mp rounds, read]

theorem readLower_eq_ok_iff {cs : List Char} {x : Binary64} : readLower cs = .ok x ↔ LowerBound cs x := by
  unfold readLower
  constructor
  · intro found
    split at found
    · next tilde =>
      cases found
      subst tilde
      exact .unbounded
    · obtain ⟨n, token, rounds⟩ := readBound_eq_ok_iff.mp found
      exact .number token rounds
  · intro low
    cases low with
    | unbounded => rfl
    | number token rounds =>
      have foreign : boundDialect.Foreign '~' := by decide
      have noTilde := foreign.not_mem token
      rw [if_neg (by rintro rfl; simp at noTilde)]
      exact readBound_eq_ok_iff.mpr ⟨_, token, rounds⟩

theorem readUpper_eq_ok_iff {cs : List Char} {x : Binary64} :
    readUpper cs = .ok x ↔ (cs = [] ∧ x = .infinity) ∨ ∃ n, boundDialect.Number cs n ∧ n.RoundsTo x := by
  unfold readUpper
  constructor
  · intro found
    split at found
    · next empty =>
      cases found
      exact Or.inl ⟨empty, rfl⟩
    · exact Or.inr (readBound_eq_ok_iff.mp found)
  · rintro (⟨rfl, rfl⟩ | ⟨n, token, rounds⟩)
    · rfl
    · rw [if_neg (Dialect.number_ne_nil boundDialect_regular token)]
      exact readBound_eq_ok_iff.mpr ⟨n, token, rounds⟩

theorem colon_foreign : boundDialect.Foreign ':' := by
  decide

theorem LowerBound.no_colon {cs : List Char} {x : Binary64} (low : LowerBound cs x) : ':' ∉ cs := by
  cases low with
  | unbounded => simp
  | number token _ => exact colon_foreign.not_mem token

theorem dropWhile_of_no_colon {cs : List Char} (none : ':' ∉ cs) : cs.dropWhile (· != ':') = [] := by
  rw [List.dropWhile_eq_nil_iff]
  intro c member
  rw [bne_iff_ne]
  rintro rfl
  exact none member

theorem split_of_colon {cs : List Char} (up : List Char) (none : ':' ∉ cs) :
    (cs ++ ':' :: up).dropWhile (· != ':') = ':' :: up ∧ (cs ++ ':' :: up).takeWhile (· != ':') = cs := by
  have before : ∀ c ∈ cs, (c != ':') = true := by
    intro c member
    rw [bne_iff_ne]
    rintro rfl
    exact none member
  constructor
  · rw [List.dropWhile_append_of_pos before]
    rfl
  · rw [List.takeWhile_append_of_pos before]
    simp

theorem readBounds_of_no_colon {cs : List Char} (none : ':' ∉ cs) :
    readBounds cs = (readUpper cs).map (.zero, ·) := by
  rw [readBounds, dropWhile_of_no_colon none]

theorem readBounds_of_colon {cs up : List Char} (none : ':' ∉ cs) :
    readBounds (cs ++ ':' :: up) = (readLower cs).bind fun x => (readUpper up).map (x, ·) := by
  obtain ⟨after, front⟩ := split_of_colon up none
  rw [readBounds, after, front]

theorem map_pair_eq_ok_iff {e : Except SpecFault Binary64} {x y z : Binary64} :
    e.map (z, ·) = .ok (x, y) ↔ z = x ∧ e = .ok y := by
  cases e with
  | error fault => simp [Except.map]
  | ok value => simp [Except.map]

theorem readBounds_of_body {cs : List Char} {x y : Binary64} (body : Body cs x y) :
    readBounds cs = .ok (x, y) := by
  cases body with
  | empty => rfl
  | upper token rounds =>
    rw [readBounds_of_no_colon (colon_foreign.not_mem token), map_pair_eq_ok_iff]
    exact ⟨rfl, readUpper_eq_ok_iff.mpr (Or.inr ⟨_, token, rounds⟩)⟩
  | lower low =>
    rw [readBounds_of_colon low.no_colon, readLower_eq_ok_iff.mpr low]
    rfl
  | both low token rounds =>
    rw [readBounds_of_colon low.no_colon, readLower_eq_ok_iff.mpr low,
      readUpper_eq_ok_iff.mpr (Or.inr ⟨_, token, rounds⟩)]
    rfl

theorem body_of_readBounds {cs : List Char} {x y : Binary64} (read : readBounds cs = .ok (x, y)) :
    Body cs x y := by
  by_cases colon : ':' ∈ cs
  · obtain ⟨before, after, rfl, none⟩ := List.eq_append_cons_of_mem colon
    rw [readBounds_of_colon none] at read
    cases lower : readLower before with
    | error fault =>
      rw [lower] at read
      cases read
    | ok z =>
      rw [lower] at read
      obtain ⟨rfl, upper⟩ := map_pair_eq_ok_iff.mp read
      have low := readLower_eq_ok_iff.mp lower
      rcases readUpper_eq_ok_iff.mp upper with ⟨rfl, rfl⟩ | ⟨n, token, rounds⟩
      · exact .lower low
      · exact .both low token rounds
  · rw [readBounds_of_no_colon colon, map_pair_eq_ok_iff] at read
    obtain ⟨rfl, upper⟩ := read
    rcases readUpper_eq_ok_iff.mp upper with ⟨rfl, rfl⟩ | ⟨n, token, rounds⟩
    · exact .empty
    · exact .upper token rounds

theorem readBounds_eq_ok_iff {cs : List Char} {x y : Binary64} :
    readBounds cs = .ok (x, y) ↔ Body cs x y :=
  ⟨body_of_readBounds, readBounds_of_body⟩

/-! ### Ranges -/

theorem readRange_eq_ok_iff {invert : Bool} {cs : List Char} {range : Range} :
    readRange invert cs = .ok range ↔ Body cs range.lower range.upper ∧ range.invert = invert := by
  rw [← readBounds_eq_ok_iff, readRange]
  cases bounds : readBounds cs with
  | error fault => simp [Except.bind]
  | ok pair =>
    obtain ⟨x, y⟩ := pair
    obtain ⟨lower, upper, inverted, ordered⟩ := range
    simp only [Except.bind, Except.ok.injEq, Prod.mk.injEq]
    constructor
    · intro found
      split at found
      · cases found
        exact ⟨⟨rfl, rfl⟩, rfl⟩
      · cases found
    · rintro ⟨⟨rfl, rfl⟩, rfl⟩
      rw [dif_pos ordered]

/-- Around its colon and its tilde, a body has only the characters of number tokens. -/
theorem Body.not_mem {cs : List Char} {x y : Binary64} (body : Body cs x y) {c : Char}
    (foreign : boundDialect.Foreign c) (tilde : c ≠ '~') (colon : c ≠ ':') : c ∉ cs := by
  have lower {cs : List Char} {x : Binary64} (low : LowerBound cs x) : c ∉ cs := by
    cases low with
    | unbounded => simp [tilde]
    | number token _ => exact foreign.not_mem token
  cases body with
  | empty => simp
  | upper token _ => exact foreign.not_mem token
  | lower low => simp [lower low, colon]
  | both low token _ => simp [lower low, foreign.not_mem token, colon]

theorem Body.reads {cs : List Char} {x y : Binary64} (body : Body cs x y) (invert : Bool) :
    Reads (if invert then '@' :: cs else cs) invert x y := by
  cases invert with
  | false => exact .plain body
  | true => exact .inverted body

theorem readTrimmed_of_plain {cs : List Char} (plain : cs.head? ≠ some '@') :
    readTrimmed cs = readRange false cs := by
  unfold readTrimmed
  split
  · exact absurd rfl plain
  · rfl

theorem Body.readTrimmed_eq {cs : List Char} {x y : Binary64} (body : Body cs x y) (invert : Bool) :
    readTrimmed (if invert then '@' :: cs else cs) = readRange invert cs := by
  cases invert with
  | true => rfl
  | false =>
    rw [if_neg (by simp)]
    apply readTrimmed_of_plain
    intro head
    have mark : '@' ∈ cs := List.mem_of_mem_head? head
    exact body.not_mem (by decide) (by decide) (by decide) mark

theorem readTrimmed_eq_ok_iff {cs : List Char} {range : Range} :
    readTrimmed cs = .ok range ↔ Reads cs range.invert range.lower range.upper := by
  constructor
  · unfold readTrimmed
    intro found
    split at found
    · obtain ⟨body, inverted⟩ := readRange_eq_ok_iff.mp found
      rw [inverted]
      exact .inverted body
    · obtain ⟨body, plain⟩ := readRange_eq_ok_iff.mp found
      rw [plain]
      exact .plain body
  · intro reads
    obtain ⟨lower, upper, invert, ordered⟩ := range
    cases reads with
    | inverted body => exact (body.readTrimmed_eq true).trans (readRange_eq_ok_iff.mpr ⟨body, rfl⟩)
    | plain body => exact (body.readTrimmed_eq false).trans (readRange_eq_ok_iff.mpr ⟨body, rfl⟩)

theorem Body.trimsTo_self {cs : List Char} {x y : Binary64} (body : Body cs x y) (invert : Bool) :
    Text.TrimsTo isMargin (if invert then '@' :: cs else cs) (if invert then '@' :: cs else cs) := by
  have margin {c : Char} (member : c ∈ cs) : isMargin c = false := by
    rw [Bool.eq_false_iff]
    intro drop
    have kinds : c = ' ' ∨ c = '\n' ∨ c = '\r' := by simpa [isMargin, or_assoc] using drop
    rcases kinds with rfl | rfl | rfl <;>
      exact body.not_mem (by decide) (by decide) (by decide) member
  apply Text.trimsTo_self
  cases invert with
  | false =>
    intro c member
    exact margin member
  | true =>
    intro c member
    rcases List.mem_cons.mp member with rfl | inside
    · rfl
    · exact margin inside

theorem Body.parse_eq {cs : List Char} {x y : Binary64} (body : Body cs x y) (invert : Bool) :
    parse (.ofList (if invert then '@' :: cs else cs)) =
      if ordered : x ≤ y then .ok ⟨x, y, invert, ordered⟩
      else .error ⟨.ofList (if invert then '@' :: cs else cs), .order (.float x) (.float y)⟩ := by
  have core : trimmed (.ofList (if invert then '@' :: cs else cs)) = if invert then '@' :: cs else cs := by
    rw [trimmed, String.toList_ofList]
    exact Text.trimsTo_iff.mp (body.trimsTo_self invert)
  rw [parse, core, body.readTrimmed_eq, readRange, readBounds_of_body body]
  by_cases ordered : x ≤ y
  · simp [Except.bind, Except.mapError, ordered]
  · simp [Except.bind, Except.mapError, ordered]

theorem parse_eq_ok_iff {text : String} {range : Range} :
    parse text = .ok range ↔
      ∃ core, Text.TrimsTo isMargin text.toList core ∧ Reads core range.invert range.lower range.upper := by
  have wrapped : parse text = .ok range ↔ readTrimmed (trimmed text) = .ok range := by
    rw [parse]
    cases readTrimmed (trimmed text) with
    | error fault => simp [Except.mapError]
    | ok found => simp [Except.mapError]
  rw [wrapped, readTrimmed_eq_ok_iff]
  constructor
  · intro reads
    exact ⟨_, Text.trimsTo_iff.mpr rfl, reads⟩
  · rintro ⟨core, trims, reads⟩
    rw [trimmed, Text.trimsTo_iff.mp trims]
    exact reads

theorem Reads.ne_nan {cs : List Char} {invert : Bool} {x y : Binary64} (reads : Reads cs invert x y) :
    x ≠ .nan ∧ y ≠ .nan := by
  cases reads with
  | plain body => exact body.ne_nan
  | inverted body => exact body.ne_nan

/-- A text is read exactly if it stands in the grammar and its end is not below its start. -/
theorem exists_parse_iff (text : String) (invert : Bool) (lower upper : Binary64) :
    (∃ range, parse text = .ok range ∧ range.invert = invert ∧ range.lower = lower ∧ range.upper = upper) ↔
      (∃ core, Text.TrimsTo isMargin text.toList core ∧ Reads core invert lower upper) ∧ ¬ upper < lower := by
  constructor
  · rintro ⟨range, read, rfl, rfl, rfl⟩
    refine ⟨parse_eq_ok_iff.mp read, ?_⟩
    intro above
    have ordered := range.ordered.2.2
    have reversed := above.2.2
    omega
  · rintro ⟨⟨core, trims, reads⟩, notBelow⟩
    obtain ⟨startNumber, endNumber⟩ := reads.ne_nan
    have ordered := Binary64.le_of_not_lt startNumber endNumber notBelow
    exact ⟨⟨lower, upper, invert, ordered⟩, parse_eq_ok_iff.mpr ⟨core, trims, reads⟩, rfl, rfl, rfl⟩

end AlertRange.Spec

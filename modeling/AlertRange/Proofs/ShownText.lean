import Mathlib
import AlertRange.Screen.Table
import AlertRange.Text.Printable

namespace AlertRange

/-- An attempt that gives a value with a property. -/
def Yields {ε α : Type} (holds : α → Prop) (attempt : Except ε α) : Prop :=
  ∃ a, attempt = .ok a ∧ holds a

theorem eq_ok_of_toOption {ε α : Type} {attempt : Except ε α} {a : α} (found : attempt.toOption = some a) :
    attempt = .ok a := by
  cases attempt with
  | error e => cases found
  | ok b =>
    cases found
    rfl

theorem exists_error_of_isOk {ε α : Type} {attempt : Except ε α} (stopped : attempt.isOk = false) :
    ∃ e, attempt = .error e := by
  cases attempt with
  | error e => exact ⟨e, rfl⟩
  | ok a => cases stopped

theorem mapM_of_ok {ε α β : Type} {f : α → Except ε β} {g : α → β} {items : List α}
    (each : ∀ item ∈ items, f item = .ok (g item)) : items.mapM f = .ok (items.map g) := by
  induction items with
  | nil => rfl
  | cons item rest ih =>
    rw [List.mapM_cons, each item List.mem_cons_self, ih fun other member =>
      each other (List.mem_cons_of_mem item member)]
    rfl

namespace Yields

variable {ε δ α β : Type} {p : α → Prop} {q : β → Prop}

theorem ok {a : α} (holds : p a) : Yields p (.ok a : Except ε α) :=
  ⟨a, rfl, holds⟩

theorem mono {p' : α → Prop} {attempt : Except ε α} (first : Yields p attempt) (weaker : ∀ a, p a → p' a) :
    Yields p' attempt := by
  obtain ⟨a, equal, holds⟩ := first
  exact ⟨a, equal, weaker a holds⟩

theorem bind {attempt : Except ε α} {f : α → Except ε β} (first : Yields p attempt)
    (next : ∀ a, p a → Yields q (f a)) : Yields q (attempt >>= f) := by
  obtain ⟨a, rfl, holds⟩ := first
  exact next a holds

theorem map {attempt : Except ε α} {f : α → β} (first : Yields p attempt) (next : ∀ a, p a → q (f a)) :
    Yields q (attempt.map f) := by
  obtain ⟨a, rfl, holds⟩ := first
  exact ⟨f a, rfl, next a holds⟩

theorem mapError {attempt : Except ε α} {f : ε → δ} (first : Yields p attempt) :
    Yields p (attempt.mapError f) := by
  obtain ⟨a, rfl, holds⟩ := first
  exact ⟨a, rfl, holds⟩

theorem mapM_forall₂ {holds : α → β → Prop} {f : α → Except ε β} {items : List α}
    (each : ∀ item ∈ items, Yields (holds item) (f item)) : Yields (List.Forall₂ holds items) (items.mapM f) := by
  induction items with
  | nil => exact ok .nil
  | cons item rest ih =>
    obtain ⟨b, first, holds⟩ := each item List.mem_cons_self
    obtain ⟨made, later, all⟩ := ih fun other member => each other (List.mem_cons_of_mem item member)
    refine ⟨b :: made, ?_, .cons holds all⟩
    rw [List.mapM_cons, first, later]
    rfl

theorem mapM {f : α → Except ε β} {items : List α} (each : ∀ item ∈ items, Yields q (f item)) :
    Yields (fun made => ∀ b ∈ made, q b) (items.mapM f) := by
  apply (mapM_forall₂ each).mono
  intro made all
  induction all with
  | nil => simp
  | cons holds later ih =>
    exact List.forall_mem_cons.mpr ⟨holds, ih fun other member => each other (List.mem_cons_of_mem _ member)⟩

theorem of_bind {attempt : Except ε α} {f : α → Except ε β} {b : β} (made : attempt >>= f = .ok b) :
    ∃ a, attempt = .ok a ∧ f a = .ok b := by
  cases attempt with
  | error e => cases made
  | ok a => exact ⟨a, rfl, made⟩

theorem of_map {attempt : Except ε α} {f : α → β} {b : β} (made : attempt.map f = .ok b) :
    ∃ a, attempt = .ok a ∧ f a = b := by
  cases attempt with
  | error e => cases made
  | ok a =>
    cases made
    exact ⟨a, rfl, rfl⟩

theorem of_mapError {attempt : Except ε α} {f : ε → δ} {a : α} (made : attempt.mapError f = .ok a) :
    attempt = .ok a := by
  cases attempt with
  | error e => cases made
  | ok b =>
    cases made
    rfl

theorem of_mapM_cons {f : α → Except ε β} {item : α} {rest : List α} {made : List β}
    (all : (item :: rest).mapM f = .ok made) : ∃ b more, f item = .ok b ∧ rest.mapM f = .ok more ∧
    made = b :: more := by
  rw [List.mapM_cons] at all
  obtain ⟨b, first, all⟩ := of_bind all
  obtain ⟨more, later, all⟩ := of_bind all
  cases all
  exact ⟨b, more, first, later, rfl⟩

theorem ne_nil_of_mapM {f : α → Except ε β} {items : List α} {made : List β} (all : items.mapM f = .ok made)
    (some : items ≠ []) : made ≠ [] := by
  obtain ⟨item, rest, rfl⟩ := List.exists_cons_of_ne_nil some
  obtain ⟨b, more, -, -, rfl⟩ := of_mapM_cons all
  exact List.cons_ne_nil b more

theorem of_mapM {f : α → Except ε β} {items : List α} {made : List β} (all : items.mapM f = .ok made) :
    ∀ item ∈ items, ∃ b, f item = .ok b := by
  induction items generalizing made with
  | nil => simp
  | cons item rest ih =>
    obtain ⟨b, more, first, later, rfl⟩ := of_mapM_cons all
    exact List.forall_mem_cons.mpr ⟨⟨b, first⟩, ih later⟩

theorem of_mapM_error {f : α → Except ε β} {items : List α} {e : ε} (stopped : items.mapM f = .error e) :
    ∃ item ∈ items, f item = .error e := by
  induction items with
  | nil => cases stopped
  | cons item rest ih =>
    rw [List.mapM_cons] at stopped
    cases first : f item with
    | error e' =>
      rw [first] at stopped
      cases stopped
      exact ⟨item, List.mem_cons_self, first⟩
    | ok b =>
      cases later : rest.mapM f with
      | error e' =>
        rw [first, later] at stopped
        cases stopped
        obtain ⟨other, member, equal⟩ := ih later
        exact ⟨other, List.mem_cons_of_mem item member, equal⟩
      | ok more =>
        rw [first, later] at stopped
        cases stopped

/-- If one stops, and each that stops does so for the same reason, all stop for it. -/
theorem mapM_of_stop {f : α → Except ε β} {items : List α} {item : α} {e : ε}
    (each : ∀ other ∈ items, (∃ b, f other = .ok b) ∨ f other = .error e) (member : item ∈ items)
    (stopped : f item = .error e) : items.mapM f = .error e := by
  cases all : items.mapM f with
  | ok made =>
    obtain ⟨b, done⟩ := of_mapM all item member
    rw [stopped] at done
    cases done
  | error reason =>
    obtain ⟨other, inside, stop⟩ := of_mapM_error all
    obtain ⟨b, done⟩ | same := each other inside
    · rw [stop] at done
      cases done
    · rw [stop] at same
      cases same
      rfl

end Yields

namespace Text

def isAscii (c : Char) : Bool :=
  0x20 ≤ c.toNat && c.toNat < 0x7f

theorem isAscii_iff {c : Char} : isAscii c = true ↔ 0x20 ≤ c.toNat ∧ c.toNat < 0x7f := by
  rw [isAscii, Bool.and_eq_true, decide_eq_true_eq, decide_eq_true_eq]

/-- A text of characters of a class. -/
def Within (keep : Char → Prop) (text : String) : Prop :=
  ∀ c ∈ text.toList, keep c

namespace Within

variable {keep keep' : Char → Prop} {a b : String}

theorem append (first : Within keep a) (second : Within keep b) : Within keep (a ++ b) := by
  intro c member
  rw [String.toList_append, List.mem_append] at member
  exact member.elim (first c) (second c)

theorem mono (within : Within keep a) (weaker : ∀ c, keep c → keep' c) : Within keep' a :=
  fun c member => weaker c (within c member)

theorem intercalate (between : Within keep a) {texts : List String} (each : ∀ text ∈ texts, Within keep text) :
    Within keep (a.intercalate texts) := by
  induction texts with
  | nil => simp [Within]
  | cons text rest ih =>
    have first := each text List.mem_cons_self
    have later := ih fun other member => each other (List.mem_cons_of_mem text member)
    cases rest with
    | nil => simpa using first
    | cons next more =>
      rw [String.intercalate_cons_cons]
      exact (first.append between).append later

theorem ascii (text : String) (ascii : text.toList.all isAscii = true) : Within (isAscii · = true) text :=
  List.all_eq_true.mp ascii

end Within

/-- A class of characters without joiners that holds what reports are written with. -/
structure Showable (keep : Char → Prop) : Prop where
  ascii : ∀ c, isAscii c = true → keep c
  ellipsis : keep '…'
  dash : keep '—'
  no_joiner : ∀ c, keep c → isJoiner c = false

variable {keep : Char → Prop}

theorem Showable.blank (showable : Showable keep) : keep ' ' :=
  showable.ascii ' ' (by decide)

theorem Showable.literal (showable : Showable keep) (text : String) (ascii : text.toList.all isAscii = true) :
    Within keep text :=
  (Within.ascii text ascii).mono showable.ascii

theorem showable_isPrintable : Showable (isPrintable · = true) where
  ascii c low := isPrintable_of_ascii (isAscii_iff.mp low).1 (isAscii_iff.mp low).2
  ellipsis := by decide +kernel
  dash := by decide +kernel
  no_joiner c printable := by
    rw [Bool.eq_false_iff]
    intro joiner
    have code : c.toNat = 0x200d := by simpa [isJoiner] using joiner
    have hidden : covers unprintableTable (Char.ofNat 0x200d) = true := by decide +kernel
    rw [← code, Char.ofNat_toNat] at hidden
    simp [isPrintable, code, hidden] at printable

theorem showable_isJoiner : Showable (isJoiner · = false) where
  ascii c low := by
    have small := (isAscii_iff.mp low).2
    simp only [isJoiner, decide_eq_false_iff_not]
    omega
  ellipsis := by decide
  dash := by decide
  no_joiner _ other := other

theorem mem_of_mem_graphemes {cs : List Char} {g : Grapheme} (member : g ∈ graphemes cs) {c : Char}
    (inside : c ∈ g.chars) : c ∈ cs := by
  rw [← graphemes_flatMap cs]
  exact List.mem_flatMap.mpr ⟨g, member, inside⟩

namespace Styled

/-- Whether the style of a name can be read. A name of no style can. -/
def Readable (style : String) : Prop :=
  ∀ start stop, Screen.checkStyle ⟨start, stop, style⟩ = .ok ()

theorem checkStyle_of_readable {span : Span} (readable : Readable span.style) : Screen.checkStyle span = .ok () :=
  readable span.start span.stop

structure Sound (keep : Char → Prop) (text : Styled) : Prop where
  chars : ∀ c ∈ text.chars, keep c
  styles : ∀ span ∈ text.spans, Readable span.style

theorem mem_of_mem_printed {cs : List Char} {c : Char} (member : c ∈ printed cs) : c ∈ cs :=
  List.mem_of_mem_filter member

theorem sound_plain {text : String} (kept : Within keep text) : (plain text).Sound keep where
  chars c member := kept c (mem_of_mem_printed member)
  styles _ member := by cases member

theorem sound_styled {style text : String} (readable : Readable style) (kept : Within keep text) :
    (styled style text).Sound keep where
  chars c member := kept c (mem_of_mem_printed member)
  styles span member := by
    rw [List.mem_singleton.mp member]
    exact readable

variable {text : Styled}

theorem Sound.append {more : Styled} (sound : text.Sound keep) (sound' : more.Sound keep) :
    (text ++ more).Sound keep where
  chars c member := by
    rw [chars_append, List.mem_append] at member
    exact member.elim (sound.chars c) (sound'.chars c)
  styles span member := by
    rcases List.mem_append.mp member with old | new
    · exact sound.styles span old
    · obtain ⟨origin, known, rfl⟩ := List.mem_map.mp new
      exact sound'.styles origin known

theorem Sound.withChars (sound : text.Sound keep) {cs : List Char} (kept : ∀ c ∈ cs, keep c) :
    (text.withChars cs).Sound keep where
  chars := kept
  styles span member := by
    unfold Styled.withChars at member
    split at member
    · obtain ⟨origin, known, cropped⟩ := List.mem_filterMap.mp member
      unfold Span.crop? at cropped
      split at cropped
      · cases cropped
        exact sound.styles origin known
      · cases cropped
    · exact sound.styles span member

theorem Sound.slice (sound : text.Sound keep) (start length : Nat) : (text.slice start length).Sound keep where
  chars c member := sound.chars c (List.mem_of_mem_drop (List.mem_of_mem_take member))
  styles span member := by
    obtain ⟨origin, known, inside⟩ := List.mem_filterMap.mp member
    unfold Span.within? at inside
    split at inside
    · cases inside
      exact sound.styles origin known
    · cases inside

theorem forall_cut {holds : Styled → Prop} (whole : holds text)
    (slice : ∀ start length, holds (text.slice start length))
    (lengths : List Nat) : ∀ piece ∈ text.cut lengths, holds piece := by
  have slices (start : Nat) : ∀ piece ∈ text.slices start lengths, holds piece := by
    induction lengths generalizing start with
    | nil => simp [Styled.slices]
    | cons length rest ih =>
      intro piece member
      rcases List.mem_cons.mp member with rfl | later
      · exact slice start length
      · exact ih (start + length) piece later
  unfold Styled.cut
  split
  · simpa using whole
  · exact slices 0

theorem forall_lines {holds : Styled → Prop} (whole : holds text)
    (slice : ∀ start length, holds (text.slice start length)) : ∀ line ∈ text.lines, holds line := by
  have collected (pieces : List (List Char)) (found : List Styled × Nat) (before : ∀ line ∈ found.1, holds line) :
      ∀ line ∈ (pieces.foldl (fun (found : List Styled × Nat) piece =>
        (text.slice found.2 piece.length :: found.1, found.2 + piece.length + 1)) found).1, holds line := by
    induction pieces generalizing found with
    | nil => exact before
    | cons piece rest ih =>
      apply ih
      intro line member
      rcases List.mem_cons.mp member with rfl | old
      · exact slice _ _
      · exact before line old
  unfold Styled.lines
  simp only
  split
  · simpa using whole
  · intro line member
    exact collected _ _ (by simp) line (List.mem_reverse.mp member)

theorem Sound.cut (sound : text.Sound keep) (lengths : List Nat) : ∀ piece ∈ text.cut lengths, piece.Sound keep :=
  forall_cut sound sound.slice lengths

theorem Sound.lines (sound : text.Sound keep) : ∀ line ∈ text.lines, line.Sound keep :=
  forall_lines sound sound.slice

theorem Sound.extend (blank : keep ' ') (sound : text.Sound keep) (n : Nat) : (text.extend n).Sound keep where
  chars c member := by
    rcases List.mem_append.mp member with old | new
    · exact sound.chars c old
    · rw [(List.mem_replicate.mp new).2]
      exact blank
  styles span member := by
    obtain ⟨origin, known, rfl⟩ := List.mem_map.mp member
    unfold Span.extend
    split <;> exact sound.styles origin known

theorem Sound.indent (blank : keep ' ') (sound : text.Sound keep) (n : Nat) : (text.indent n).Sound keep where
  chars c member := by
    rcases List.mem_append.mp member with new | old
    · rw [(List.mem_replicate.mp new).2]
      exact blank
    · exact sound.chars c old
  styles span member := by
    obtain ⟨origin, known, rfl⟩ := List.mem_map.mp member
    exact sound.styles origin known

theorem Sound.mem_runs (sound : text.Sound keep) : ∀ run ∈ text.runs, ∀ c ∈ run, keep c := by
  intro run member c inside
  apply sound.chars
  rw [← text.runs_flatten]
  exact List.mem_flatten.mpr ⟨run, member, inside⟩

end Styled

end Text

namespace Screen

open Text (Showable Styled)

variable {keep : Char → Prop} (showable : Showable keep)

/-! ### Cutting -/

theorem mem_blanks {n : Nat} {c : Char} (member : c ∈ blanks n) : c = ' ' :=
  (List.mem_replicate.mp member).2

theorem takeWidth_kept (blank : keep ' ') (width : Nat) {all : List Text.Grapheme}
    (kept : ∀ g ∈ all, ∀ c ∈ g.chars, keep c) :
    ∀ c ∈ takeWidth width all, keep c := by
  induction all generalizing width with
  | nil => simp [takeWidth]
  | cons g rest ih =>
    have first := kept g List.mem_cons_self
    have later := fun width => ih width fun other member => kept other (List.mem_cons_of_mem g member)
    unfold takeWidth
    intro c member
    split at member
    · cases member
    · split at member
      · rcases List.mem_append.mp member with inside | after
        · exact first c inside
        · exact later _ c after
      · rw [List.mem_singleton.mp member]
        exact blank

include showable

/-- A text without joiners is as wide as its graphemes, so there is always a place to cut it. -/
theorem cropTo_yields (width : Nat) {line : Line} (kept : ∀ c ∈ line, keep c) :
    Yields (fun cut => ∀ c ∈ cut, keep c) (cropTo width line) := by
  unfold cropTo
  split
  · exact .ok kept
  · next wide =>
    split
    · exact .ok (by simp)
    · next columns =>
      cases line with
      | nil => simp at wide
      | cons c rest =>
        have widths : Text.sumWidths (Text.graphemes (c :: rest)) = Text.cells (c :: rest) :=
          Text.sumWidths_graphemes (showable.no_joiner c (kept c List.mem_cons_self)) rest
        unfold cutGraphemes
        rw [widths, if_neg (by omega), if_neg (by omega)]
        apply Yields.ok
        apply takeWidth_kept showable.blank
        intro g member d inside
        exact kept d (Text.mem_of_mem_graphemes member inside)

variable {line : Styled} (sound : line.Sound keep)

include sound

theorem crop_yields (width : Nat) : Yields (Styled.Sound keep) (crop width line) :=
  (cropTo_yields showable width sound.chars).map fun _ kept => sound.withChars kept

theorem ellipsize_yields (width : Nat) : Yields (Styled.Sound keep) (ellipsize width line) := by
  unfold ellipsize
  split
  · exact .ok sound
  · apply (cropTo_yields showable (width - 1) sound.chars).map
    intro cut kept
    apply sound.withChars
    intro c member
    rcases List.mem_append.mp member with inside | mark
    · exact kept c inside
    · rw [List.mem_singleton.mp mark]
      exact showable.ellipsis

omit showable

theorem sound_dropExcess (width : Nat) : (dropExcess width line).Sound keep :=
  sound.withChars fun c member => sound.chars c (List.mem_of_mem_take member)

/-! ### Lines -/

omit sound

theorem sound_joinAtTabs (blank : keep ' ') (position : Nat) {pieces : List Styled}
    (sound : ∀ piece ∈ pieces, piece.Sound keep) : (joinAtTabs position pieces).Sound keep := by
  induction pieces generalizing position with
  | nil => exact ⟨by simp [joinAtTabs], by simp [joinAtTabs]⟩
  | cons piece rest ih =>
    have first := sound piece List.mem_cons_self
    have later := fun position => ih position fun other member => sound other (List.mem_cons_of_mem piece member)
    cases rest with
    | nil => exact first
    | cons next more =>
      unfold joinAtTabs
      apply Styled.Sound.append
      · apply Styled.Sound.extend blank
        apply first.withChars
        intro c member
        rcases List.mem_append.mp member with inside | last
        · exact first.chars c (List.dropLast_subset _ inside)
        · rw [List.mem_singleton.mp last]
          exact blank
      · exact later _

include sound

theorem sound_expandTabs (blank : keep ' ') : (expandTabs line).Sound keep :=
  sound_joinAtTabs blank 0 (sound.cut _)

theorem sound_wrapLine (fold : Bool) (width : Nat) : ∀ part ∈ wrapLine fold width line, part.Sound keep := by
  intro part member
  obtain ⟨piece, inside, rfl⟩ := List.mem_map.mp member
  exact sound_dropExcess (sound.cut _ piece inside) width

include showable

theorem wrap_yields (width : Nat) :
    Yields (fun lines => ∀ part ∈ lines, part.Sound keep) (wrap width line) := by
  apply Yields.mapM
  intro part member
  obtain ⟨piece, inside, wrapped⟩ := List.mem_flatMap.mp member
  have expanded := sound_expandTabs (sound.lines piece inside) showable.blank
  exact crop_yields showable (sound_wrapLine expanded true width part wrapped) width

theorem alignRight_yields (width : Nat) : Yields (Styled.Sound keep) (alignRight width line) := by
  apply Yields.bind (ellipsize_yields showable (sound.withChars ?_) width)
  · intro cut kept
    exact .ok (kept.indent showable.blank _)
  · intro c member
    exact sound.chars c ((Text.trimEnd_isPrefix _ _).subset member)

theorem alignedLines_yields (width : Nat) :
    Yields (fun lines => ∀ part ∈ lines, part.Sound keep) (alignedLines width line) := by
  have expanded := sound_expandTabs sound showable.blank
  apply Yields.bind (Yields.mapM fun part member =>
    alignRight_yields showable (sound_wrapLine expanded false width part member) width)
  intro lines aligned
  exact Yields.mapM fun part member => ellipsize_yields showable (aligned part member) width

omit showable sound

/-! ### Runs -/

def Kept (keep : Char → Prop) (runs : List Line) : Prop :=
  ∀ run ∈ runs, ∀ c ∈ run, keep c

theorem runsOf_of_readable {lines : List Styled} (readable : ∀ line ∈ lines, ∀ span ∈ line.spans,
    Styled.Readable span.style) :
    runsOf lines = .ok (lines.map Styled.runs) := by
  have checked (spans : List Text.Span) (readable : ∀ span ∈ spans, Styled.Readable span.style) :
      spans.forM checkStyle = .ok () := by
    induction spans with
    | nil => rfl
    | cons span rest ih =>
      change (checkStyle span >>= fun _ => rest.forM checkStyle) = .ok ()
      rw [Styled.checkStyle_of_readable (readable span List.mem_cons_self)]
      exact ih fun other member => readable other (List.mem_cons_of_mem span member)
  have all : lines.forM (fun line => line.spans.forM checkStyle) = .ok () := by
    induction lines with
    | nil => rfl
    | cons line rest ih =>
      change (line.spans.forM checkStyle >>= fun _ => rest.forM fun line => line.spans.forM checkStyle) = .ok ()
      rw [checked line.spans (readable line List.mem_cons_self)]
      exact ih fun other member => readable other (List.mem_cons_of_mem line member)
  rw [runsOf, all]
  rfl

theorem runsOf_yields {lines : List Styled} (sound : ∀ line ∈ lines, line.Sound keep) :
    Yields (fun all => ∀ runs ∈ all, Kept keep runs) (runsOf lines) := by
  refine ⟨lines.map Styled.runs, runsOf_of_readable fun line member => (sound line member).styles, ?_⟩
  intro runs member
  obtain ⟨line, inside, rfl⟩ := List.mem_map.mp member
  exact (sound line inside).mem_runs

theorem kept_cons {run : Line} {rest : List Line} (first : ∀ c ∈ run, keep c) (later : Kept keep rest) :
    Kept keep (run :: rest) := by
  intro other member
  rcases List.mem_cons.mp member with rfl | inside
  · exact first
  · exact later other inside

include showable

theorem kept_blanks {runs : List Line} (kept : Kept keep runs) (n : Nat) : Kept keep (runs ++ [blanks n]) := by
  intro run member
  rcases List.mem_append.mp member with inside | blank
  · exact kept run inside
  · rw [List.mem_singleton.mp blank]
    intro c member
    rw [mem_blanks member]
    exact showable.blank

theorem cropRuns_yields (width : Nat) {runs : List Line} (kept : Kept keep runs) :
    Yields (Kept keep) (cropRuns width runs) := by
  induction runs generalizing width with
  | nil => exact .ok kept
  | cons run rest ih =>
    have first := kept run List.mem_cons_self
    unfold cropRuns
    split
    · apply (ih _ fun other member => kept other (List.mem_cons_of_mem run member)).map
      intro cut later
      exact kept_cons first later
    · apply (cropTo_yields showable width first).map
      intro cut inside
      exact kept_cons inside (by simp [Kept])

theorem fit_yields (width : Nat) {runs : List Line} (kept : Kept keep runs) :
    Yields (Kept keep) (fit width runs) := by
  unfold fit
  split
  · exact cropRuns_yields showable width kept
  · exact .ok kept

theorem fill_yields (width : Nat) {runs : List Line} (kept : Kept keep runs) :
    Yields (Kept keep) (fill width runs) := by
  unfold fill
  split
  · exact .ok (kept_blanks showable kept _)
  · exact fit_yields showable width kept

/-! ### Tables and blocks -/

theorem valueLines_yields (width : Nat) {value : Styled} (sound : value.Sound keep) :
    Yields (fun all => ∀ runs ∈ all, Kept keep runs) (valueLines width value) := by
  apply Yields.bind (Yields.mapM fun line member => alignedLines_yields showable (sound.lines line member) width)
  intro lines aligned
  have each : ∀ line ∈ lines.flatten, line.Sound keep := by
    intro line member
    obtain ⟨part, inside, member⟩ := List.mem_flatten.mp member
    exact aligned part inside line member
  apply Yields.bind (runsOf_yields each)
  intro runs kept
  apply Yields.bind (Yields.mapM fun run member => fill_yields showable width (kept run member))
  intro shown kept
  apply Yields.bind
    (Yields.mapM fun run member => fill_yields showable (width + 1) (kept_blanks showable (kept run member) 1))
  intro spaced kept
  exact Yields.mapM fun run member => fill_yields showable (width + 1) (kept run member)

structure Row.Sound (keep : Char → Prop) (row : Row) : Prop where
  value : row.value.Sound keep
  label : Text.Within keep row.label

theorem rowLines_yields (width : Nat) {row : Row} (sound : row.Sound keep) :
    Yields (fun all => ∀ runs ∈ all, Kept keep runs) (rowLines width row) := by
  apply (valueLines_yields showable width sound.value).map
  intro all kept runs member
  have padded (n : Nat) : ∀ c ∈ blanks n, keep c := fun c inside => mem_blanks inside ▸ showable.blank
  have label : ∀ c ∈ labelCell row.label, keep c := by
    intro c inside
    unfold labelCell at inside
    rcases List.mem_append.mp inside with front | after
    · rcases List.mem_append.mp front with blank | letter
      · exact padded 1 c blank
      · exact sound.label c letter
    · exact padded _ c after
  have beside {runs : List Line} {last : Line} (kept : Kept keep runs) (first : ∀ c ∈ last, keep c) :
      Kept keep (runs ++ [last]) := by
    intro run member
    rcases List.mem_append.mp member with inside | cell
    · exact kept run inside
    · rw [List.mem_singleton.mp cell]
      exact first
  cases all with
  | nil => cases member
  | cons first more =>
    rcases List.mem_cons.mp member with rfl | later
    · exact beside (kept first List.mem_cons_self) label
    · obtain ⟨runs, inside, rfl⟩ := List.mem_map.mp later
      exact beside (kept runs (List.mem_cons_of_mem first inside)) (padded _)

theorem sound_heading : heading.Sound keep where
  value := Styled.sound_plain (showable.literal "Value" (by decide))
  label := showable.literal "Result" (by decide)

theorem tableLines_yields {rows : List Row} (sound : ∀ row ∈ rows, row.Sound keep) :
    Yields (fun all => ∀ runs ∈ all, Kept keep runs) (tableLines rows) := by
  have each : ∀ row ∈ heading :: rows, row.Sound keep := by
    intro row member
    rcases List.mem_cons.mp member with rfl | inside
    · exact sound_heading showable
    · exact sound row inside
  apply (Yields.mapM fun row member => rowLines_yields showable (valueWidth rows) (each row member)).map
  intro all kept runs member
  obtain ⟨lines, inside, member⟩ := List.mem_flatten.mp member
  exact kept lines inside runs member

end Screen

namespace Screen.Block

inductive Sound (keep : Char → Prop) : Block → Prop
  | text {content : Text.Styled} (sound : content.Sound keep) : Sound keep (.text content)
  | table {rows : List Row} (sound : ∀ row ∈ rows, row.Sound keep) : Sound keep (.table rows)

variable {keep : Char → Prop}

theorem Sound.render (showable : Text.Showable keep) {block : Block} (sound : block.Sound keep) (width : Nat) :
    Yields (fun shown => ∀ c ∈ shown, keep c ∨ c = '\n') (block.render width) := by
  have lines : Yields (fun all => ∀ runs ∈ all, Kept keep runs) (block.lines width) := by
    cases sound with
    | text sound => exact (wrap_yields showable sound width).bind fun all sound => runsOf_yields sound
    | table sound => exact tableLines_yields showable sound
  apply lines.bind
  intro all kept
  apply Yields.bind (Yields.mapM fun runs member => fit_yields showable width (kept runs member))
  intro shown kept
  apply Yields.ok
  intro c member
  obtain ⟨runs, inside, member⟩ := List.mem_flatMap.mp member
  rcases List.mem_append.mp member with letter | ending
  · obtain ⟨run, inRuns, letter⟩ := List.mem_flatten.mp letter
    exact Or.inl (kept runs inside run inRuns c letter)
  · exact Or.inr (List.mem_singleton.mp ending)

end Screen.Block

end AlertRange

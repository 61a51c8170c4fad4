import Mathlib
import AlertRange.Text.Unquoted

namespace AlertRange.Text

theorem hexDigit?_digitChar {d : Nat} (small : d < 16) : hexDigit? d.digitChar = some d := by
  have digits : ∀ d < 16, hexDigit? d.digitChar = some d := by decide
  exact digits d small

theorem hexValue?_concat (cs : List Char) (c : Char) :
    hexValue? (cs ++ [c]) = (hexValue? cs).bind fun value => (hexDigit? c).map (16 * value + ·) := by
  rw [hexValue?, List.foldlM_append, hexValue?]
  cases List.foldlM (fun value c => (hexDigit? c).map (16 * value + ·)) 0 cs with
  | none => rfl
  | some value => simp

theorem hexValue?_toDigits (n : Nat) : hexValue? (Nat.toDigits 16 n) = some n := by
  induction n using Nat.strongRecOn with
  | ind n ih =>
    rw [Nat.toDigits_eq_if (by decide)]
    split
    · next small => simp [hexValue?, hexDigit?_digitChar small]
    · have last := hexDigit?_digitChar (Nat.mod_lt n (by decide : 0 < 16))
      rw [hexValue?_concat, ih (n / 16) (by omega), last, Option.bind_some, Option.map_some, Nat.div_add_mod]

theorem hexValue?_zeros (zeros : Nat) (cs : List Char) :
    hexValue? (List.replicate zeros '0' ++ cs) = hexValue? cs := by
  induction zeros with
  | zero => rfl
  | succ zeros ih =>
    rw [List.replicate_succ, List.cons_append, ← ih]
    rfl

theorem hexValue?_hex (width code : Nat) : hexValue? (hex width code) = some code := by
  rw [hex, List.leftpad, hexValue?_zeros, hexValue?_toDigits]

theorem length_hex {width code : Nat} (some : 0 < width) (small : code < 16 ^ width) :
    (hex width code).length = width := by
  have digits := Nat.toDigits_length 16 code width some small
  rw [hex, List.length_leftpad, Nat.max_eq_left digits]

theorem readCode?_hex {width : Nat} (some : 0 < width) (c : Char) (small : c.toNat < 16 ^ width)
    (rest : List Char) :
    readCode? width (hex width c.toNat ++ rest) = .some (c, rest) := by
  have length := length_hex some small
  have enough : ¬ (hex width c.toNat ++ rest).length < width := by
    rw [List.length_append, length]
    omega
  rw [readCode?, if_neg enough, List.take_left' length, List.drop_left' length, hexValue?_hex, Option.map_some,
    Char.ofNat_toNat]

theorem toNat_lt (c : Char) : c.toNat < 16 ^ 8 := by
  rcases c.valid with low | ⟨-, high⟩
  · exact low.trans (by decide)
  · exact high.trans (by decide)

theorem readChar?_of_ne {c : Char} (plain : c ≠ '\\') (rest : List Char) :
    readChar? (c :: rest) = some (c, rest) := by
  unfold readChar?
  split <;> simp_all

inductive Written (quote c : Char) : List Char → Prop
  | plain (ordinary : c ≠ '\\') (other : c ≠ quote) : Written quote c [c]
  | letter {letter} (escape : letterEscape? letter = some c) : Written quote c ['\\', letter]
  | code {letter width} (other : letterEscape? letter = none) (width_eq : codeWidth? letter = some width)
      (positive : 0 < width) (small : c.toNat < 16 ^ width) : Written quote c ('\\' :: letter :: hex width c.toNat)

variable {quote c : Char}

theorem written_escapeCode (quote c : Char) : Written quote c (escapeCode c) := by
  unfold escapeCode
  split
  · next small => exact .code rfl rfl (by decide) small
  · split
    · next small => exact .code rfl rfl (by decide) small
    · exact .code rfl rfl (by decide) (toNat_lt c)

theorem written_quotedChar (mark : quote = '\'' ∨ quote = '"') (c : Char) :
    Written quote c (quotedChar quote c) := by
  unfold quotedChar
  split
  · next marked =>
    apply Written.letter
    rcases marked with rfl | rfl
    · rcases mark with rfl | rfl <;> rfl
    · rfl
  · next plain =>
    rw [not_or] at plain
    split
    · next newline => exact newline ▸ .letter rfl
    · split
      · next carriage => exact carriage ▸ .letter rfl
      · split
        · next tab => exact tab ▸ .letter rfl
        · split
          · exact .plain plain.2 plain.1
          · exact written_escapeCode quote c

theorem Written.readChar?_eq {cs : List Char} (written : Written quote c cs) (rest : List Char) :
    readChar? (cs ++ rest) = some (c, rest) := by
  cases written with
  | plain ordinary other => exact readChar?_of_ne ordinary rest
  | letter escape => simp only [List.cons_append, List.nil_append, readChar?, escape]
  | code other width_eq positive small =>
    simp only [List.cons_append, readChar?, other, width_eq, Option.bind_some, readCode?_hex positive c small]

theorem Written.head?_ne {cs : List Char} (written : Written quote c cs) (mark : quote = '\'' ∨ quote = '"')
    (rest : List Char) : (cs ++ rest).head? ≠ some quote := by
  have slash : some '\\' ≠ some quote := by
    rcases mark with rfl | rfl <;> decide
  cases written with
  | plain ordinary other => exact fun same => other (Option.some.inj same)
  | letter escape => exact slash
  | code other width_eq positive small => exact slash

theorem upTo?_quotedChar (mark : quote = '\'' ∨ quote = '"') (c : Char) (rest : List Char) :
    upTo? quote (quotedChar quote c ++ rest) =
      (upTo? quote rest).map fun (before, after) => (c :: before, after) := by
  have written := written_quotedChar mark c
  rw [upTo?]
  split
  · next nothing =>
    rw [written.readChar?_eq] at nothing
    cases nothing
  · next read =>
    rw [written.readChar?_eq] at read
    cases read
    rw [if_neg (written.head?_ne mark rest)]

theorem upTo?_quote (mark : quote = '\'' ∨ quote = '"') (rest : List Char) :
    upTo? quote (quote :: rest) = some ([], rest) := by
  have plain : quote ≠ '\\' := by
    rcases mark with rfl | rfl <;> decide
  rw [upTo?]
  split
  · next nothing =>
    rw [readChar?_of_ne plain] at nothing
    cases nothing
  · next read =>
    rw [readChar?_of_ne plain] at read
    cases read
    rw [if_pos List.head?_cons]

theorem upTo?_flatMap (mark : quote = '\'' ∨ quote = '"') (cs rest : List Char) :
    upTo? quote (cs.flatMap (quotedChar quote) ++ quote :: rest) = some (cs, rest) := by
  induction cs with
  | nil => exact upTo?_quote mark rest
  | cons c cs ih =>
    rw [List.flatMap_cons, List.append_assoc, upTo?_quotedChar mark, ih]
    rfl

theorem quoteFor_cases (cs : List Char) : quoteFor cs = '\'' ∨ quoteFor cs = '"' := by
  unfold quoteFor
  split
  · exact Or.inr rfl
  · exact Or.inl rfl

theorem unquote?_of_quote (mark : quote = '\'' ∨ quote = '"') (rest : List Char) :
    unquote? (quote :: rest) = upTo? quote rest := by
  rcases mark with rfl | rfl <;> rfl

/-- A quoted text ends where its quote is closed, and reads back as the text. -/
theorem unquote?_quotedChars (cs rest : List Char) : unquote? (quotedChars cs ++ rest) = some (cs, rest) := by
  have mark := quoteFor_cases cs
  rw [quotedChars, List.cons_append, unquote?_of_quote mark, List.append_assoc, List.singleton_append]
  exact upTo?_flatMap mark cs rest

end AlertRange.Text

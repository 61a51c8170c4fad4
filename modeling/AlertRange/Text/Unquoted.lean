import AlertRange.Text.Quoted

namespace AlertRange.Text

def hexDigit? (c : Char) : Option Nat :=
  (List.range 16).find? (·.digitChar == c)

def hexValue? (digits : List Char) : Option Nat :=
  digits.foldlM (fun value c => (hexDigit? c).map (16 * value + ·)) 0

def letterEscape? (letter : Char) : Option Char :=
  if letter = '\\' ∨ letter = '\'' ∨ letter = '"' then some letter
  else if letter = 'n' then some '\n'
  else if letter = 'r' then some '\r'
  else if letter = 't' then some '\t'
  else none

def codeWidth? (letter : Char) : Option Nat :=
  if letter = 'x' then some 2
  else if letter = 'u' then some 4
  else if letter = 'U' then some 8
  else none

def readCode? (width : Nat) (cs : List Char) : Option (Char × List Char) :=
  if cs.length < width then none else (hexValue? (cs.take width)).map fun code => (.ofNat code, cs.drop width)

def readChar? : List Char → Option (Char × List Char)
  | [] => none
  | '\\' :: [] => none
  | '\\' :: letter :: rest =>
    match letterEscape? letter with
    | some c => some (c, rest)
    | none => (codeWidth? letter).bind (readCode? · rest)
  | c :: rest => some (c, rest)

theorem readChar?_length {cs : List Char} {found : Char × List Char} (read : readChar? cs = some found) :
    found.2.length < cs.length := by
  unfold readChar? at read
  split at read
  · cases read
  · cases read
  · split at read
    · cases read
      simp only [List.length_cons]
      omega
    · obtain ⟨width, -, code⟩ := Option.bind_eq_some_iff.mp read
      unfold readCode? at code
      split at code
      · cases code
      · obtain ⟨value, -, rfl⟩ := Option.map_eq_some_iff.mp code
        simp only [List.length_drop, List.length_cons]
        omega
  · cases read
    simp

def upTo? (quote : Char) (cs : List Char) : Option (List Char × List Char) :=
  match _h : readChar? cs with
  | none => none
  | some found =>
    if cs.head? = some quote then some ([], found.2)
    else (upTo? quote found.2).map fun (before, after) => (found.1 :: before, after)
termination_by cs.length
decreasing_by exact readChar?_length _h

def unquote? : List Char → Option (List Char × List Char)
  | '\'' :: rest => upTo? '\'' rest
  | '"' :: rest => upTo? '"' rest
  | _ => none

end AlertRange.Text

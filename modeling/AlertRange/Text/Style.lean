namespace AlertRange.Text

def isParameter (c : Char) : Bool :=
  '0' ≤ c && c ≤ '?'

def isIntermediate (c : Char) : Bool :=
  ' ' ≤ c && c ≤ '/'

def isFinal (c : Char) : Bool :=
  '@' ≤ c && c ≤ '~'

def afterStyle? : List Char → Option (List Char)
  | '\x1b' :: '[' :: cs =>
    match (cs.dropWhile isParameter).dropWhile isIntermediate with
    | c :: rest => if isFinal c then some rest else none
    | [] => none
  | _ => none

theorem afterStyle?_length {cs rest : List Char} (h : afterStyle? cs = some rest) :
    rest.length < cs.length := by
  unfold afterStyle? at h
  split at h
  · next tail =>
    have shorter := (List.dropWhile_suffix isParameter (l := tail)).length_le
    have again := (List.dropWhile_suffix isIntermediate (l := tail.dropWhile isParameter)).length_le
    split at h
    · next found =>
      split at h
      · cases h
        rw [found] at again
        simp only [List.length_cons] at shorter again ⊢
        omega
      · cases h
    · cases h
  · cases h

def unstyled (cs : List Char) : List Char :=
  match _h : afterStyle? cs with
  | some rest => unstyled rest
  | none =>
    match cs with
    | [] => []
    | c :: rest => c :: unstyled rest
termination_by cs.length
decreasing_by
  · exact afterStyle?_length _h
  · simp

end AlertRange.Text

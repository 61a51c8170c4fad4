namespace AlertRange.Text

def trimEnd (drop : Char → Bool) (cs : List Char) : List Char :=
  (cs.reverse.dropWhile drop).reverse

def trim (drop : Char → Bool) (cs : List Char) : List Char :=
  trimEnd drop (cs.dropWhile drop)

theorem trimEnd_append (drop : Char → Bool) (cs : List Char) :
    trimEnd drop cs ++ (cs.reverse.takeWhile drop).reverse = cs := by
  rw [trimEnd, ← List.reverse_append, List.takeWhile_append_dropWhile, List.reverse_reverse]

theorem trimEnd_isPrefix (drop : Char → Bool) (cs : List Char) : trimEnd drop cs <+: cs :=
  ⟨_, trimEnd_append drop cs⟩

end AlertRange.Text

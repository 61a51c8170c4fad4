namespace AlertRange.Text

def isWord (word : String) (cs : List Char) : Bool :=
  cs.map Char.toLower == word.toList

theorem isWord_iff {word : String} {cs : List Char} :
    isWord word cs = true ↔ cs.map Char.toLower = word.toList := by
  simp [isWord]

end AlertRange.Text

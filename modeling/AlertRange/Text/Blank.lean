import AlertRange.Text.CodeRange

/-!
White space. `isWhiteSpace` is the property White_Space of Unicode; `isBlank` also counts the
information separators U+001C to U+001F.
-/

namespace AlertRange.Text

def whiteSpaceTable : List CodeRange :=
  [
    (0x9, 0xd), (0x20, 0x20), (0x85, 0x85), (0xa0, 0xa0), (0x1680, 0x1680), (0x2000, 0x200a),
    (0x2028, 0x2029), (0x202f, 0x202f), (0x205f, 0x205f), (0x3000, 0x3000)
  ]

def isWhiteSpace (c : Char) : Bool :=
  covers whiteSpaceTable c

def isBlank (c : Char) : Bool :=
  covers [(0x1c, 0x1f)] c || isWhiteSpace c

end AlertRange.Text

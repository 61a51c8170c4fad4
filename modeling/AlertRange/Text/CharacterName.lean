import AlertRange.Text.CharacterNames
import AlertRange.Text.CodeRange
import AlertRange.Text.Emoji

namespace AlertRange.Text

def alphabetPlace (c : Char) : Nat :=
  c.toNat - 'a'.toNat

/-- Whether a name is listed, its last character first. `name` is the listed name that has been read so
far; `shared` is how much of it counts, while that is being told. -/
def isListed (wanted name : List Char) (shared : Option Nat) : List Char → Bool
  | [] => name == wanted
  | c :: rest =>
    if c = '\n' then isListed wanted name shared rest
    else if c.isLower then
      match shared with
      | some length => isListed wanted name (some (length + alphabetPlace c)) rest
      | none => name == wanted || isListed wanted name (some (alphabetPlace c)) rest
    else
      match shared with
      | some length => isListed wanted (c :: name.drop (name.length - length)) none rest
      | none => isListed wanted (c :: name) none rest

def syllableStarts : List String :=
  ["", "B", "BB", "C", "D", "DD", "G", "GG", "H", "J", "JJ", "K", "M", "N", "P", "R", "S", "SS", "T"]

def syllableVowels : List String :=
  ["A", "AE", "E", "EO", "EU", "I", "O", "OE", "U", "WA", "WAE", "WE", "WEO", "WI", "YA", "YAE", "YE",
    "YEO", "YI", "YO", "YU"]

def syllableEnds : List String :=
  ["", "B", "BS", "C", "D", "G", "GG", "GS", "H", "J", "K", "L", "LB", "LG", "LH", "LM", "LP", "LS",
    "LT", "M", "N", "NG", "NH", "NJ", "P", "S", "SS", "T"]

def afterText? (first : String) (cs : List Char) : Option (List Char) :=
  if first.toList.isPrefixOf cs then some (cs.drop first.length) else none

def isSyllable (cs : List Char) : Bool :=
  syllableStarts.any fun start => (afterText? start cs).any fun rest =>
    syllableVowels.any fun vowel => (afterText? vowel rest).any fun rest =>
      syllableEnds.any fun ending => ending.toList == rest

def ideographTable : List CodeRange :=
  [
    (0x3400, 0x4dbf), (0x4e00, 0x9fff), (0x20000, 0x2a6df), (0x2a700, 0x2b738), (0x2b740, 0x2b81d),
    (0x2b820, 0x2cea1), (0x2ceb0, 0x2ebe0), (0x30000, 0x3134a)
  ]

def isIdeographCode (digits : List Char) : Bool :=
  (digits.length = 4 || digits.length = 5) && digits.all (fun c => c.isDigit || ('A' ≤ c && c ≤ 'F')) &&
    covers ideographTable (ofHex (digits.map Char.toLower))

def isCharacterName (name : List Char) : Bool :=
  match afterText? "HANGUL SYLLABLE " name with
  | some syllable => isSyllable syllable
  | none =>
    match afterText? "CJK UNIFIED IDEOGRAPH-" name with
    | some digits => isIdeographCode digits
    | none => isListed (name.map Char.toUpper).reverse [] (some 0) characterNames.toList

end AlertRange.Text

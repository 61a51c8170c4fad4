import AlertRange.Text.Blank
import AlertRange.Text.Case
import AlertRange.Text.EmojiNames

namespace AlertRange.Text

def ofHex (digits : List Char) : Char :=
  Char.ofNat (digits.foldl
    (fun n c => 16 * n + if c.isDigit then c.toNat - '0'.toNat else c.toNat - 'a'.toNat + 10) 0)

def readEmojiEntry (entry : List Char) : List Char × List Char :=
  let codes := (entry.dropWhile (· != '=')).drop 1
  (entry.takeWhile (· != '='), (List.splitOn '-' codes).map ofHex)

def emojiTable : List (List Char × List Char) :=
  ((List.splitOnP isBlank emojiNames.toList).filter (!·.isEmpty)).map readEmojiEntry

/-- A name, and the selector of the form that is asked for. -/
def emojiForm (name : List Char) : List Char × List Char :=
  if "-emoji".toList.isSuffixOf name then (name.take (name.length - 6), ['\ufe0f'])
  else if "-text".toList.isSuffixOf name then (name.take (name.length - 5), ['\ufe0e'])
  else (name, [])

def emoji? (name : List Char) : Option (List Char) :=
  let (name, selector) := emojiForm name
  (emojiTable.lookup (inSmallLetters name)).map (· ++ selector)

def isEmojiNameChar (c : Char) : Bool :=
  c != ':' && !isBlank c

def emojiName? (cs : List Char) : Option (List Char × List Char) :=
  match cs.dropWhile isEmojiNameChar with
  | ':' :: rest => some (cs.takeWhile isEmojiNameChar, rest)
  | _ => none

theorem emojiName?_length {cs name rest : List Char} (found : emojiName? cs = some (name, rest)) :
    rest.length < cs.length := by
  have shorter := (List.dropWhile_suffix isEmojiNameChar (l := cs)).length_le
  unfold emojiName? at found
  split at found
  · next tail =>
    cases found
    rw [tail, List.length_cons] at shorter
    exact shorter
  · cases found

def withEmoji : List Char → List Char
  | [] => []
  | c :: cs =>
    if c = ':' then
      match _h : emojiName? cs with
      | some (name, rest) => (emoji? name).getD (':' :: name ++ [':']) ++ withEmoji rest
      | none => c :: withEmoji cs
    else c :: withEmoji cs
termination_by cs => cs.length
decreasing_by
  · have := emojiName?_length _h
    simp only [List.length_cons]
    omega
  · simp
  · simp

end AlertRange.Text

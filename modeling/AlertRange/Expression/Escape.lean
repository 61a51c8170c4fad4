import AlertRange.Expression.Fault
import AlertRange.Expression.Numeral
import AlertRange.Text.CharacterName

namespace AlertRange.Expression

def inAscii : List Char → List Char
  | [] => []
  | c :: rest =>
    if 0x80 ≤ c.toNat then '\\' :: 'U' :: Text.hex 8 c.toNat ++ inAscii rest
    else if c = '\\' then
      match rest with
      | [] => "\\u005c".toList
      | d :: more =>
        if 0x80 ≤ d.toNat then "\\u005c".toList ++ '\\' :: 'U' :: Text.hex 8 d.toNat ++ inAscii more
        else c :: d :: inAscii more
    else c :: inAscii rest

namespace Escape

def digits? (letter : Char) : Option Nat :=
  if letter = 'x' then some 2 else if letter = 'u' then some 4 else if letter = 'U' then some 8 else none

def hexValue (digits : List Char) : Nat :=
  Numeral.wholeValue 16 digits

def digitsFault? (letter : Char) (wanted : Nat) (rest : List Char) : Option (EscapeFault × Nat) :=
  let digits := (rest.take wanted).takeWhile Notation.hexadecimal.isDigit
  if digits.length < wanted then some (.truncated letter wanted, digits.length)
  else if 0x10ffff < hexValue digits then some (.outOfRange, wanted)
  else none

def nameFault? (rest : List Char) : Option (EscapeFault × Nat) :=
  match rest with
  | '\x7b' :: inner =>
    let name := inner.takeWhile (· != '\x7d')
    if name.length = inner.length then some (.malformedName, name.length + 1)
    else if name.isEmpty then some (.malformedName, 1)
    else if Text.isCharacterName name then none
    else some (.unknownName, name.length + 2)
  | _ => some (.malformedName, 0)

def fault? (place : Nat) : List Char → Option QuotedFault
  | [] => none
  | '\\' :: letter :: rest =>
    let found :=
      match digits? letter with
      | some wanted => digitsFault? letter wanted rest
      | none => if letter = 'N' then nameFault? rest else none
    match found with
    | some (reason, length) => some (.escape reason place (place + 1 + length))
    | none => fault? (place + 2) rest
  | _ :: rest => fault? (place + 1) rest

def byteFault? (place : Nat) : List Char → Option QuotedFault
  | [] => none
  | '\\' :: letter :: rest =>
    if letter = 'x' && (digitsFault? letter 2 rest).isSome then some (.byteEscape place)
    else byteFault? (place + 2) rest
  | _ :: rest => byteFault? (place + 1) rest

end Escape

end AlertRange.Expression

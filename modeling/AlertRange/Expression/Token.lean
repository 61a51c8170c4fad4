import AlertRange.Binary64.Layout
import AlertRange.Text.Printable
import AlertRange.Text.Quoted

namespace AlertRange.Expression

inductive TokenKind where
  | name
  /-- A word that cannot be a name. -/
  | word
  | number
  | quoted
  | mark
  | lineEnd
  | indent
  | dedent
  | finish
  deriving DecidableEq

structure Token where
  kind : TokenKind
  text : String
  /-- The line that the token begins on. -/
  line : Nat
  /-- How many brackets are open after the token. -/
  depth : Nat

namespace Token

def reservedWords : List String :=
  ["False", "None", "True", "and", "as", "assert", "async", "await", "break", "class", "continue", "def",
    "del", "elif", "else", "except", "finally", "for", "from", "global", "if", "import", "in", "is",
    "lambda", "nonlocal", "not", "or", "pass", "raise", "return", "try", "while", "with", "yield"]

def isLooseWord (token : Token) : Bool :=
  token.kind = .name && ["_", "case", "match"].any (token.text.toList.isPrefixOf ·.toList)

def isMark (token : Token) (mark : String) : Bool :=
  token.kind = .mark && token.text == mark

def isWord (token : Token) (word : String) : Bool :=
  token.kind = .word && token.text == word

def isClosed (token : Token) : Bool :=
  match token.kind with
  | .quoted =>
    let text := token.text.toList.drop (token.text.toList.takeWhile fun c => c != '\'' && c != '"').length
    text.length ≠ 2
  | .mark => token.text.length = 3
  | .lineEnd => true
  | _ => false

end Token

inductive Notation where
  | decimal
  | hexadecimal
  | octal
  | binary
  | imaginary
  deriving DecidableEq

namespace Notation

def title : Notation → String
  | .decimal => "decimal"
  | .hexadecimal => "hexadecimal"
  | .octal => "octal"
  | .binary => "binary"
  | .imaginary => "imaginary"

def isDigit (way : Notation) (c : Char) : Bool :=
  match way with
  | .hexadecimal => c.isDigit || ('a' ≤ c && c ≤ 'f') || ('A' ≤ c && c ≤ 'F')
  | .octal => '0' ≤ c && c ≤ '7'
  | .binary => c = '0' || c = '1'
  | _ => c.isDigit

end Notation

inductive TokenFault where
  | number (way : Notation)
  | digit (c : Char) (way : Notation)
  | leadingZeros
  | unterminated (tripled : Bool) (line : Nat)
  | character (c : Char)
  | tooManyBrackets
  | unmatched (closing : Char)
  /-- The line of the opening bracket is told if it is another one. -/
  | mismatched (closing opening : Char) (line : Option Nat)
  | unclosed (opening : Char)
  | afterBackslash
  | ended
  | dedent
  | tabs
  | tooManyIndents
  deriving DecidableEq

namespace TokenFault

def code (c : Char) : String :=
  .ofList ('U' :: '+' :: (Text.hex 4 c.toNat).map Char.toUpper)

def message : TokenFault → String
  | .number way => "invalid " ++ way.title ++ " literal"
  | .digit c way => "invalid digit '" ++ c.toString ++ "' in " ++ way.title ++ " literal"
  | .leadingZeros =>
    "leading zeros in decimal integer literals are not permitted; " ++
      "use an 0o prefix for octal integers"
  | .unterminated tripled line =>
    "unterminated " ++ (if tripled then "triple-quoted " else "") ++ "string literal (detected at line " ++
      intText line ++ ")"
  | .character c =>
    if Text.isPrintable c then "invalid character '" ++ c.toString ++ "' (" ++ code c ++ ")"
    else "invalid non-printable character " ++ code c
  | .tooManyBrackets => "too many nested parentheses"
  | .unmatched closing => "unmatched '" ++ closing.toString ++ "'"
  | .mismatched closing opening line =>
    "closing parenthesis '" ++ closing.toString ++ "' does not match opening parenthesis '" ++
      opening.toString ++ "'" ++ (line.map fun n => " on line " ++ intText n).getD ""
  | .unclosed opening => "'" ++ opening.toString ++ "' was never closed"
  | .afterBackslash => "unexpected character after line continuation character"
  | .ended => "unexpected EOF while parsing"
  | .dedent => "unindent does not match any outer indentation level"
  | .tabs => "inconsistent use of tabs and spaces in indentation"
  | .tooManyIndents => "too many levels of indentation"

def isOfToken : TokenFault → Bool
  | .unclosed _ => false
  | .afterBackslash => false
  | .ended => false
  | .dedent => false
  | .tabs => false
  | .tooManyIndents => false
  | _ => true

end TokenFault

end AlertRange.Expression

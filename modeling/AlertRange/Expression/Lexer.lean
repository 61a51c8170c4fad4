import AlertRange.Expression.Numeral

namespace AlertRange.Expression

/-- A margin of blanks, counted with two widths of tabs: margins have to agree in both. -/
structure Margin where
  column : Nat
  strict : Nat
  deriving DecidableEq

namespace Margin

def none : Margin :=
  ⟨0, 0⟩

def space (margin : Margin) : Margin :=
  ⟨margin.column + 1, margin.strict + 1⟩

def tab (margin : Margin) : Margin :=
  ⟨(margin.column / 8 + 1) * 8, margin.strict + 1⟩

def whole (first : Nat) (last : Margin) : Margin :=
  if first = 0 then last else ⟨first, first⟩

end Margin

structure Bracket where
  char : Char
  line : Nat

structure Lexer where
  rest : List Char
  line : Nat
  /-- Whether a line begins. -/
  fresh : Bool
  /-- The margins that hold, the innermost first. -/
  margins : List Margin
  /-- Changes of the margin that still have to be told. -/
  waiting : List TokenKind
  /-- The brackets that are open, the innermost first. -/
  brackets : List Bracket

namespace Lexer

def ofText (line : Nat) (text : List Char) : Lexer :=
  ⟨text, line, true, [], [], []⟩

def ended (lexer : Lexer) : TokenFault :=
  match lexer.brackets with
  | [] => .ended
  | bracket :: _ => .unclosed bracket.char

def readMargin (lexer : Lexer) (first : Nat) (margin : Margin) : List Char →
    Except TokenFault (Margin × Lexer)
  | ' ' :: rest => readMargin lexer first margin.space rest
  | '\t' :: rest => readMargin lexer first margin.tab rest
  | '\x0c' :: rest => readMargin lexer first .none rest
  | '\\' :: '\n' :: rest =>
    if rest.isEmpty then .error lexer.ended
    else readMargin { lexer with line := lexer.line + 1 } (if first = 0 then margin.column else first) margin rest
  | '\\' :: _ => .error .afterBackslash
  | rest => .ok (.whole first margin, { lexer with rest := rest })

def marginLimit : Nat :=
  100

def indent (lexer : Lexer) (margin : Margin) : Except TokenFault Lexer :=
  let outer := lexer.margins.head?.getD .none
  if margin.column = outer.column then
    if margin.strict = outer.strict then .ok lexer else .error .tabs
  else if outer.column < margin.column then
    if marginLimit ≤ lexer.margins.length + 1 then .error .tooManyIndents
    else if margin.strict ≤ outer.strict then .error .tabs
    else .ok { lexer with margins := margin :: lexer.margins, waiting := [.indent] }
  else
    let kept := lexer.margins.dropWhile (margin.column < ·.column)
    let outer := kept.head?.getD .none
    if margin.column ≠ outer.column then .error .dedent
    else if margin.strict ≠ outer.strict then .error .tabs
    else .ok { lexer with
      margins := kept, waiting := List.replicate (lexer.margins.length - kept.length) .dedent }

def startsBlank (cs : List Char) : Bool :=
  cs.head? = some '#' || cs.head? = some '\n'

def begin (lexer : Lexer) : Except TokenFault (Bool × Lexer) :=
  if lexer.fresh then do
    let (margin, lexer) ← readMargin { lexer with fresh := false } 0 .none lexer.rest
    if startsBlank lexer.rest then .ok (true, lexer)
    else if lexer.brackets.isEmpty then (lexer.indent margin).map (false, ·)
    else .ok (false, lexer)
  else .ok (false, lexer)

def skip (lexer : Lexer) : List Char → Except TokenFault Lexer
  | ' ' :: rest => skip lexer rest
  | '\t' :: rest => skip lexer rest
  | '\x0c' :: rest => skip lexer rest
  | '#' :: rest => .ok { lexer with rest := rest.dropWhile (· != '\n') }
  | '\\' :: '\n' :: rest =>
    if rest.isEmpty then .error lexer.ended else skip { lexer with line := lexer.line + 1 } rest
  | '\\' :: _ => .error .afterBackslash
  | rest => .ok { lexer with rest := rest }

def afterQuotes (quote : Char) (tripled : Bool) (line : Nat) : List Char → Except TokenFault (List Char)
  | [] => .error (.unterminated tripled line)
  | '\\' :: c :: rest =>
    afterQuotes quote tripled (if c = '\n' && !rest.isEmpty then line + 1 else line) rest
  | c :: rest =>
    if c = '\n' && !tripled then .error (.unterminated false line)
    else if c = quote && (!tripled || [quote, quote].isPrefixOf rest) then
      .ok (if tripled then rest.drop 2 else rest)
    else afterQuotes quote tripled (if c = '\n' && !rest.isEmpty then line + 1 else line) rest

def isQuote (c : Char) : Bool :=
  c = '\'' || c = '"'

def quotedAt? (cs : List Char) : Option Nat :=
  let marks := ((cs.take 3).takeWhile (!isQuote ·)).map Char.toLower
  if ((cs.take 3).drop marks.length).isEmpty then none
  else if marks.isEmpty || marks ∈ ["b", "f", "r", "u", "br", "fr", "rb", "rf"].map String.toList then
    some marks.length
  else none

def afterQuoted (line letters : Nat) (cs : List Char) : Except TokenFault (List Char) :=
  match cs.drop letters with
  | [] => .ok []
  | quote :: rest =>
    if [quote, quote].isPrefixOf rest then afterQuotes quote true line (rest.drop 2)
    else afterQuotes quote false line rest

def marks : List String :=
  ["**=", "//=", ">>=", "<<=", "...", "!=", "%=", "&=", "**", "*=", "+=", "-=", "->", "//", "/=", ":=",
    "<<", "<=", "<>", "==", ">=", ">>", "@=", "^=", "|="]

def markLength (cs : List Char) : Nat :=
  ((marks.find? fun mark => mark.toList.isPrefixOf cs).map String.length).getD 1

def bracketLimit : Nat :=
  200

def closing? (c : Char) : Option Char :=
  if c = '(' then some ')' else if c = '[' then some ']' else if c = '\x7b' then some '\x7d' else none

def bracketsAfter (lexer : Lexer) (c : Char) : Except TokenFault (List Bracket) :=
  if (closing? c).isSome then
    if bracketLimit ≤ lexer.brackets.length then .error .tooManyBrackets
    else .ok (⟨c, lexer.line⟩ :: lexer.brackets)
  else if c = ')' || c = ']' || c = '\x7d' then
    match lexer.brackets with
    | [] => .error (.unmatched c)
    | opening :: outer =>
      if closing? opening.char = some c then .ok outer
      else .error (.mismatched c opening.char (if opening.line = lexer.line then none else some opening.line))
  else if Text.isPrintable c then .ok lexer.brackets
  else .error (.character c)

def badNameChar? : List Char → Option Char
  | [] => none
  | c :: rest =>
    if Text.isNameStart c then rest.find? (!Text.isNameChar ·) else some c

def take (lexer : Lexer) (kind : TokenKind) (length : Nat) (brackets : List Bracket) : Token × Lexer :=
  let text := lexer.rest.take length
  (⟨kind, .ofList text, lexer.line, brackets.length⟩,
    { lexer with
      rest := lexer.rest.drop length, line := lexer.line + text.count '\n', brackets := brackets })

def takeUpTo (lexer : Lexer) (kind : TokenKind) (rest : List Char) : Token × Lexer :=
  lexer.take kind (lexer.rest.length - rest.length) lexer.brackets

def takeName (lexer : Lexer) : Except TokenFault (Token × Lexer) :=
  let text := lexer.rest.takeWhile isNamePart
  match badNameChar? text with
  | some c => .error (.character c)
  | none =>
    let kind := if String.ofList text ∈ Token.reservedWords then .word else .name
    .ok (lexer.take kind text.length lexer.brackets)

def takeToken (lexer : Lexer) (c : Char) : Except TokenFault (Token × Lexer) :=
  match quotedAt? lexer.rest with
  | some letters => (afterQuoted lexer.line letters lexer.rest).map (lexer.takeUpTo .quoted)
  | none =>
    if c.isDigit || (c = '.' && startsWithDigit (lexer.rest.drop 1)) then
      (Numeral.after lexer.rest).map (lexer.takeUpTo .number)
    else if isNamePart c then lexer.takeName
    else do
      let length := markLength lexer.rest
      let brackets ← if length = 1 then lexer.bracketsAfter c else .ok lexer.brackets
      .ok (lexer.take .mark length brackets)

def nextWithin (lexer : Lexer) (lines : Nat) : Except TokenFault (Token × Lexer) := do
  let (blank, lexer) ← lexer.begin
  match lexer.waiting with
  | kind :: waiting => .ok (⟨kind, "", lexer.line, 0⟩, { lexer with waiting := waiting })
  | [] =>
    let lexer ← lexer.skip lexer.rest
    match lexer.rest with
    | [] => if lexer.brackets.isEmpty then .ok (lexer.take .finish 0 []) else .error lexer.ended
    | '\n' :: rest =>
      if blank || !lexer.brackets.isEmpty then
        match lines with
        | 0 => .error lexer.ended
        | lines + 1 =>
          nextWithin { lexer with rest := rest, line := lexer.line + 1, fresh := true } lines
      else
        let (token, lexer) := lexer.take .lineEnd 1 []
        .ok (token, { lexer with fresh := true })
    | c :: _ => lexer.takeToken c

def next (lexer : Lexer) : Except TokenFault (Token × Lexer) :=
  lexer.nextWithin (lexer.rest.count '\n')

end Lexer

end AlertRange.Expression

import AlertRange.Expression.Escape
import AlertRange.Expression.Reading

namespace AlertRange.Expression

structure Quoted where
  bytes : Bool
  raw : Bool
  formatted : Bool
  body : List Char
  /-- The line on which it begins. -/
  line : Nat

namespace Quoted

def ofToken (token : Token) : Quoted :=
  let text := token.text.toList
  let letters := (text.takeWhile (!Lexer.isQuote ·)).map Char.toLower
  let inner := text.drop letters.length
  let quotes := if (inner.take 3).eraseDups.length = 1 && 6 ≤ inner.length then 3 else 1
  { bytes := letters.contains 'b'
    raw := letters.contains 'r'
    formatted := letters.contains 'f'
    body := (inner.drop quotes).take (inner.length - 2 * quotes)
    line := token.line }

def fault? (quoted : Quoted) : Option QuotedFault :=
  if quoted.bytes then
    if quoted.body.any (0x80 ≤ ·.toNat) then some .notAscii
    else if quoted.raw then none
    else Escape.byteFault? 0 quoted.body
  else if quoted.raw then none
  else Escape.fault? 0 (inAscii quoted.body)

end Quoted

inductive PlainEnd where
  /-- At a doubled brace, one of which belongs to it. -/
  | doubled
  | loneBrace
  | here
  deriving DecidableEq

inductive EscapePlace where
  | outside
  | letter
  | beforeName
  | name
  deriving DecidableEq

def plainText (raw top : Bool) (place : EscapePlace) (before : List Char) :
    List Char → List Char × List Char × PlainEnd
  | [] => (before.reverse, [], .here)
  | c :: rest =>
    if place = .beforeName then
      plainText raw top (if c = '\x7b' then .name else .outside) (c :: before) rest
    else if place = .name then
      plainText raw top (if c = '\x7d' then .outside else .name) (c :: before) rest
    else if place = .outside && !raw && c = '\\' && !rest.isEmpty then
      plainText raw top .letter (c :: before) rest
    else if place = .letter && c = 'N' then plainText raw top .beforeName (c :: before) rest
    else if c = '\x7b' || c = '\x7d' then
      if top && rest.head? = some c then ((c :: before).reverse, rest.drop 1, .doubled)
      else if top && c = '\x7d' then (before.reverse, rest, .loneBrace)
      else (before.reverse, c :: rest, .here)
    else plainText raw top .outside (c :: before) rest

structure OpenQuote where
  char : Char
  tripled : Bool

def closesField (c : Char) : Bool :=
  c = '!' || c = ':' || c = '\x7d' || c = '=' || c = '<' || c = '>'

/-- The expression of a field and what follows it, with the mark that ends it. `skip` characters belong
to what stands before them. -/
def fieldText (skip : Nat) (quote : Option OpenQuote) (opened before : List Char) :
    List Char → Except FieldFault (List Char × List Char)
  | [] =>
    if quote.isSome then .error .unterminated
    else
      match opened with
      | bracket :: _ => .error (.unmatched bracket)
      | [] => .error .unclosed
  | c :: rest =>
    let go (skip : Nat) (quote : Option OpenQuote) (opened : List Char) :=
      fieldText skip quote opened (c :: before) rest
    if c = '\\' then .error .backslash
    else if skip ≠ 0 then go (skip - 1) quote opened
    else
      match quote with
      | some quote =>
        if c = quote.char && !quote.tripled then go 0 none opened
        else if c = quote.char && [c, c].isPrefixOf rest then go 2 none opened
        else go 0 (some quote) opened
      | none =>
        if Lexer.isQuote c then
          if [c, c].isPrefixOf rest then go 2 (some ⟨c, true⟩) opened else go 0 (some ⟨c, false⟩) opened
        else if (Lexer.closing? c).isSome then
          if Lexer.bracketLimit ≤ opened.length then .error .tooManyBrackets else go 0 none (c :: opened)
        else if c = '#' then .error .comment
        else if opened.isEmpty && closesField c then
          if rest.head? = some '=' && c != ':' && c != '\x7d' then go 1 none opened
          else if c = '<' || c = '>' then go 0 none opened
          else .ok (before.reverse, c :: rest)
        else if c = ')' || c = ']' || c = '\x7d' then
          match opened with
          | [] => .error (.unmatched c)
          | opening :: opened =>
            if Lexer.closing? opening = some c then go 0 none opened else .error (.mismatched c opening)
        else go 0 none opened

def isFieldBlank (c : Char) : Bool :=
  c = ' ' || c = '\t' || c = '\n' || c = '\x0c'

namespace Reading

def checkPlain (raw : Bool) (text : List Char) : Reading Unit :=
  if raw then pure ()
  else
    match Escape.fault? 0 (inAscii text) with
    | some fault => raise (.quoted fault)
    | none => pure ()

def checkField (line : Nat) (text : List Char) (mark : Char) : Reading Unit :=
  if text.all isFieldBlank then
    raise (.field (if mark = '\x7d' then .empty else .emptyBefore mark))
  else fun context state =>
    match context.checkField line text with
    | .ok () => .found () state
    | .error fault => .fault fault false state

def afterEquals (rest : List Char) : List Char :=
  if rest.head? = some '=' then
    (rest.drop 1).dropWhile fun c => isFieldBlank c || c = '\r' || c = '\x0b'
  else rest

def afterConversion (rest : List Char) : Reading (List Char) :=
  match rest with
  | '!' :: [] => raise (.field .unclosed)
  | '!' :: c :: rest =>
    if c = 's' || c = 'r' || c = 'a' then pure rest else raise (.field .conversion)
  | _ => pure rest

def afterBrace (rest : List Char) : Reading (List Char) :=
  match rest with
  | '\x7d' :: rest => pure rest
  | _ => raise (.field .unclosed)

def formatField (lineOf : List Char → Nat) (layout : List Char → Reading (List Char)) (cs : List Char) :
    Reading (List Char) :=
  match fieldText 0 none [] [] cs with
  | .error fault => raise (.field fault)
  | .ok (text, rest) => do
    checkField (lineOf cs) text (rest.head?.getD '\x7d')
    let rest ← afterConversion (afterEquals rest)
    if rest.head? = some ':' then
      if (rest.drop 1).isEmpty then raise (.field .unclosed)
      else afterBrace (← layout (rest.drop 1))
    else afterBrace rest

def parts (field : List Char → Reading (List Char)) (raw top : Bool) : Nat → List Char →
    Reading (List Char)
  | 0, cs => pure cs
  | bound + 1, cs => do
    let (text, rest, ending) := plainText raw top .outside [] cs
    if ending = .loneBrace then raise (.field .loneBrace)
    else
      checkPlain raw text
      if ending = .doubled then parts field raw top bound rest
      else if rest.head? = some '\x7b' then parts field raw top bound (← field (rest.drop 1))
      else if !top && rest.isEmpty then raise (.field .unclosed)
      else pure rest

def formatted (lineOf : List Char → Nat) (raw top : Bool) : Nat → List Char → Reading (List Char)
  | 0, cs => parts (fun _ => raise (.field .tooDeep)) raw top (cs.length + 1) cs
  | depth + 1, cs =>
    parts (formatField lineOf (formatted lineOf raw false depth)) raw top (cs.length + 1) cs

def fieldDepth : Nat :=
  2

def checkQuoted (quoted : Quoted) : Reading Unit := do
  if quoted.formatted then
    let lineOf (rest : List Char) : Nat :=
      quoted.line + quoted.body.count '\n' - rest.count '\n'
    let _ ← formatted lineOf quoted.raw true fieldDepth quoted.body
  else
    match quoted.fault? with
    | some fault => raise (.quoted fault)
    | none => pure ()

/-- Checks quoted texts that are one. `bytes` tells what the one before is, if there is one. -/
def checkQuotedAll (bytes : Option Bool) : List Quoted → Reading Unit
  | [] => pure ()
  | quoted :: rest => do
    if !quoted.formatted then checkQuoted quoted
    if bytes.any (· != quoted.bytes) then raise (.quoted .mixed)
    if quoted.formatted then checkQuoted quoted
    checkQuotedAll (some quoted.bytes) rest

def quotation : Reading Tree := do
  let all := (← manyOne (ofKind .quoted)).map Quoted.ofToken
  checkQuotedAll none all
  return if all.any (·.formatted) then .other .formatted [] else .constant .text

end Reading

end AlertRange.Expression

import AlertRange.Expression.Fault
import AlertRange.Expression.Lexer
import AlertRange.Expression.Tree
import Std.Data.HashMap

/-!
Readers of token sequences. A reader finds something, refuses, so that another may be tried at the same
place, or stops at a fault. Rules may enter each other only so deep. Some rules keep what they found at a
place, and do not look there again.
-/

namespace AlertRange.Expression

inductive Rule where
  | starExpression
  | expression
  | disjunction
  | conjunction
  | inversion
  | union
  | difference
  | intersection
  | shift
  | sum
  | term
  | factor
  | awaited
  | primary
  | quotation
  | arguments
  | target
  | targetAtom
  | targetPrimary
  | misnamed

structure State where
  tokens : Array Token
  lexer : Lexer
  place : Nat
  /-- What rules found at places, and where they ended. -/
  kept : Std.HashMap Nat (Option Tree × Nat)

inductive Outcome (α : Type) where
  | found (value : α) (state : State)
  | refused (state : State)
  /-- A settled fault stays whatever follows in the text. -/
  | fault (fault : Fault) (settled : Bool) (state : State)

structure Context where
  /-- How much deeper rules may enter each other. -/
  depth : Nat
  /-- Whether rules are tried that only tell faults. -/
  diagnosing : Bool
  /-- Whether the text is a part of a formatted text. -/
  nested : Bool
  /-- More tokens than the text has. -/
  bound : Nat
  /-- Checks an expression on a line in a formatted text. -/
  checkField : Nat → List Char → Except Fault Unit
  /-- Reads by a rule, at a depth. -/
  read : Nat → Rule → Bool → State → Outcome Tree

def Reading (α : Type) : Type :=
  Context → State → Outcome α

namespace Reading

@[always_inline]
instance : Monad Reading where
  pure value := fun _ state => .found value state
  bind reading next := fun context state =>
    match reading context state with
    | .found value state => next value context state
    | .refused state => .refused state
    | .fault fault settled state => .fault fault settled state

@[inline] def refuse {α : Type} : Reading α :=
  fun _ state => .refused state

@[inline] def orElse {α : Type} (first : Reading α) (second : Unit → Reading α) : Reading α :=
  fun context state =>
    let place := state.place
    match first context state with
    | .refused state => second () context { state with place := place }
    | outcome => outcome

@[always_inline]
instance {α : Type} : OrElse (Reading α) where
  orElse := orElse

def raise {α : Type} (fault : Fault) : Reading α :=
  fun context state => .fault (if context.nested then .formatted fault else fault) false state

def fail {α : Type} (fault : GrammarFault) : Reading α :=
  raise (.grammar fault)

@[inline] def rule {α : Type} (reading : Reading α) : Reading α :=
  fun context state =>
    match context.depth with
    | 0 => .fault .tooDeep true state
    | depth + 1 => reading { context with depth := depth } state

@[inline] def call (rule : Rule) : Reading Tree :=
  fun context state => context.read context.depth rule context.diagnosing state

@[inline] def diagnosed {α : Type} (reading : Reading α) : Reading α :=
  fun context state => if context.diagnosing then reading context state else .refused state

@[inline] def quietly {α : Type} (reading : Reading α) : Reading α :=
  fun context state => reading { context with diagnosing := false } state

@[inline] def diagnose {α : Type} (reading : Reading (Option GrammarFault)) : Reading α :=
  rule do
    match ← reading with
    | some fault => fail fault
    | none => refuse

def peek : Reading Token := fun context state =>
  match state.tokens[state.place]? with
  | some token => .found token state
  | none =>
    match state.lexer.next with
    | .ok (token, lexer) => .found token { state with tokens := state.tokens.push token, lexer := lexer }
    | .error fault =>
      .fault (if context.nested && !fault.isOfToken then .formatted (.token fault) else .token fault) true state

def accept (holds : Token → Bool) : Reading Token := fun context state =>
  match peek context state with
  | .found token state =>
    if holds token then .found token { state with place := state.place + 1 } else .refused state
  | outcome => outcome

def ofKind (kind : TokenKind) : Reading Token :=
  accept fun token => token.kind = kind

def mark (text : String) : Reading Unit := do
  let _ ← accept (·.isMark text)

def word (text : String) : Reading Unit := do
  let _ ← accept (·.isWord text)

def name : Reading String := do
  return (← ofKind .name).text

def last? : Reading (Option Token) :=
  fun _ state => .found (if state.place = 0 then none else state.tokens[state.place - 1]?) state

@[inline] def maybe {α : Type} (reading : Reading α) : Reading (Option α) :=
  fun context state =>
    let place := state.place
    match reading context state with
    | .found value state => .found (some value) state
    | .refused state => .found none { state with place := place }
    | .fault fault settled state => .fault fault settled state

@[inline] def follows {α : Type} (reading : Reading α) : Reading Bool :=
  fun context state =>
    let place := state.place
    match reading context state with
    | .found _ state => .found true { state with place := place }
    | .refused state => .found false { state with place := place }
    | .fault fault settled state => .fault fault settled state

@[inline] def ahead {α : Type} (reading : Reading α) : Reading Unit := do
  if ← follows reading then pure () else refuse

@[inline] def notAhead {α : Type} (reading : Reading α) : Reading Unit := do
  if ← follows reading then refuse else pure ()

def upTo {α : Type} (reading : Reading α) (before : List α) (times : Nat) (context : Context)
    (state : State) : Outcome (List α) :=
  match times with
  | 0 => .found before.reverse state
  | times + 1 =>
    let place := state.place
    match reading context state with
    | .found value state => upTo reading (value :: before) times context state
    | .refused state => .found before.reverse { state with place := place }
    | .fault fault settled state => .fault fault settled state

@[inline] def many {α : Type} (reading : Reading α) : Reading (List α) :=
  rule fun context state => upTo reading [] context.bound context state

@[inline] def manyOne {α : Type} (reading : Reading α) : Reading (List α) :=
  rule fun context state =>
    match upTo reading [] context.bound context state with
    | .found [] state => .refused state
    | outcome => outcome

@[inline] def separated {α : Type} (item : Reading α) : Reading (List α) :=
  rule do
    let first ← item
    let rest ← many do
      mark ","
      item
    return first :: rest

end Reading

end AlertRange.Expression

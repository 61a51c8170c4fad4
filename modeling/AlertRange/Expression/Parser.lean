import AlertRange.Expression.Formatted
import AlertRange.Expression.Grammar

namespace AlertRange.Expression

namespace Rule

def index : Rule → Nat
  | .starExpression => 0
  | .expression => 1
  | .disjunction => 2
  | .conjunction => 3
  | .inversion => 4
  | .union => 5
  | .difference => 6
  | .intersection => 7
  | .shift => 8
  | .sum => 9
  | .term => 10
  | .factor => 11
  | .awaited => 12
  | .primary => 13
  | .quotation => 14
  | .arguments => 15
  | .target => 16
  | .targetAtom => 17
  | .targetPrimary => 18
  | .misnamed => 19

def count : Nat :=
  20

def isLeftRecursive : Rule → Bool
  | .union => true
  | .difference => true
  | .intersection => true
  | .shift => true
  | .sum => true
  | .term => true
  | .primary => true
  | .targetPrimary => true
  | _ => false

end Rule

namespace State

def ofText (line : Nat) (text : List Char) : State :=
  ⟨#[], .ofText line text, 0, ∅⟩

def again (state : State) : State :=
  { state with place := 0, kept := ∅ }

def keep (state : State) (key : Nat) (value : Option Tree) : State :=
  { state with kept := state.kept.insert key (value, state.place) }

end State

namespace Reading

def byRule : Rule → Reading Tree
  | .starExpression => starExpression
  | .expression => expression
  | .disjunction => joined "or" .conjunction
  | .conjunction => joined "and" .inversion
  | .inversion => inversion
  | .union => operation .union "|" .difference <|> call .difference
  | .difference => operation .difference "^" .intersection <|> call .intersection
  | .intersection => operation .intersection "&" .shift <|> call .shift
  | .shift => operation .shift "<<" .sum <|> operation .shift ">>" .sum <|> call .sum
  | .sum => operation .sum "+" .term <|> operation .sum "-" .term <|> call .term
  | .term =>
    operation .term "*" .factor <|> operation .term "/" .factor <|> operation .term "//" .factor <|>
      operation .term "%" .factor <|> operation .term "@" .factor <|> call .factor
  | .factor => factor
  | .awaited => awaited
  | .primary => primaryOf .primary (pure ())
  | .quotation => quotation
  | .arguments => arguments
  | .target => target
  | .targetAtom => targetAtom
  | .targetPrimary => primaryOf .targetPrimary (ahead startsTrailer)
  | .misnamed => misnamed

def kept (rule : Rule) (reading : Nat → Reading Tree) : Reading Tree :=
  fun context state =>
    let key := state.place * Rule.count + rule.index
    match state.kept[key]? with
    | some (some value, place) => .found value { state with place := place }
    | some (none, place) => .refused { state with place := place }
    | none => reading key context state

def keeping (reading : Reading Tree) (key : Nat) : Reading Tree :=
  fun context state =>
    match reading context state with
    | .found value state => .found value (state.keep key (some value))
    | .refused state => .refused (state.keep key none)
    | .fault fault settled state => .fault fault settled state

/-- Reads from a start again and again, what was found last being kept, as long as the end is farther. -/
def growing (reading : Reading Tree) (key start reached : Nat) (best : Option Tree) :
    Nat → Reading Tree
  | 0 => refuse
  | times + 1 => fun context state =>
    match reading context { state.keep key best with place := start } with
    | .fault fault settled state => .fault fault settled state
    | .found value state =>
      if reached < state.place then growing reading key start state.place (some value) times context state
      else stop { state with place := reached }
    | .refused state => stop { state with place := reached }
where
  stop (state : State) : Outcome Tree :=
    match best with
    | some value => .found value state
    | none => .refused state

def grown (reading : Reading Tree) (key : Nat) : Reading Tree :=
  fun context state =>
    growing reading key state.place state.place none (context.bound + 1) context state

end Reading

def readRule (nested : Bool) (bound : Nat) (checkField : Nat → List Char → Except Fault Unit)
    (depth : Nat) (rule : Rule) (diagnosing : Bool) (state : State) : Outcome Tree :=
  match depth with
  | 0 => .fault .tooDeep true state
  | depth + 1 =>
    let context : Context :=
      ⟨depth, diagnosing, nested, bound, checkField,
        fun left => readRule nested bound checkField (min left depth)⟩
    let reading := if rule.isLeftRecursive then Reading.grown (Reading.rule (Reading.byRule rule))
      else Reading.keeping (Reading.byRule rule)
    Reading.kept rule reading context state
termination_by depth
decreasing_by omega

def depthLimit : Nat :=
  6000

def remainingFault? (lexer : Lexer) (line : Nat) : Nat → Option TokenFault
  | 0 => none
  | bound + 1 =>
    match lexer.next with
    | .ok (token, lexer) => if token.kind = .finish then none else remainingFault? lexer line bound
    | .error fault =>
      if fault.isOfToken then some fault
      else
        match lexer.brackets with
        | bracket :: _ => if bracket.line < line then some lexer.ended else none
        | [] => none

structure Source where
  nested : Bool
  line : Nat
  text : List Char
  start : Reading Tree

namespace Source

def bound (source : Source) : Nat :=
  2 * source.text.length + 2

def outcome (source : Source) (checkField : Nat → List Char → Except Fault Unit) (diagnosing : Bool)
    (state : State) : Outcome Tree :=
  source.start
    ⟨depthLimit, diagnosing, source.nested, source.bound, checkField,
      readRule source.nested source.bound checkField⟩
    state

def told (source : Source) (fault : Fault) : Fault :=
  if source.nested then .formatted fault else fault

/-- The fault that is told for another one if the tokens that are left have one. -/
def settled (source : Source) (fault : Fault) (state : State) : Fault :=
  match remainingFault? state.lexer ((state.tokens.back?.map (·.line)).getD 0) source.bound with
  | some remaining => if remaining.isOfToken then .token remaining else source.told (.token remaining)
  | none => fault

def sawEnd (state : State) : Bool :=
  state.lexer.rest.isEmpty && !(state.tokens.back?.any Token.isClosed)

def stopped (source : Source) (fault : Fault) (isSettled : Bool) (state : State) : Fault :=
  if isSettled || sawEnd state then fault else source.settled fault state

def generalFault (source : Source) (last : Option TokenKind) (state : State) : Fault :=
  if last = some .indent then source.told (.grammar .indent)
  else if last = some .dedent then source.told (.grammar .dedent)
  else source.settled (source.told (.grammar .misplaced)) state

def read (source : Source) (checkField : Nat → List Char → Except Fault Unit) : Except Fault Tree :=
  match source.outcome checkField false (.ofText source.line source.text) with
  | .found tree _ => .ok tree
  | .fault fault isSettled state => .error (source.stopped fault isSettled state)
  | .refused state =>
    let last := state.tokens.back?.map (·.kind)
    match source.outcome checkField true state.again with
    | .fault fault isSettled state => .error (source.stopped fault isSettled state)
    | .found _ state => .error (source.generalFault last state)
    | .refused state => .error (source.generalFault last state)

end Source

def checkField (depth line : Nat) (text : List Char) : Except Fault Unit :=
  match depth with
  | 0 => .ok ()
  | depth + 1 =>
    let source : Source := ⟨true, line, '(' :: text ++ [')', '\n'], Reading.field⟩
    (source.read (checkField depth)).map fun _ => ()

namespace Tree

def withLineFeeds : List Char → List Char
  | '\r' :: '\n' :: rest => '\n' :: withLineFeeds rest
  | '\r' :: rest => '\n' :: withLineFeeds rest
  | c :: rest => c :: withLineFeeds rest
  | [] => []

def isSpace (c : Char) : Bool :=
  c = ' ' || c = '\t'

def ofText (text : List Char) : Except Fault Tree :=
  let text := withLineFeeds (text.dropWhile isSpace)
  (Source.mk false 1 text Reading.whole).read (checkField text.length)

end Tree

end AlertRange.Expression

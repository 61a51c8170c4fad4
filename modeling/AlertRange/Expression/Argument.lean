import AlertRange.Expression.Display

namespace AlertRange.Expression

inductive Argument where
  | item (value : Tree)
  | keyword (name : Option String) (value : Tree)

def Argument.collect (first : List Tree) (arguments : List Argument) : Tree :=
  .call (.name "")
    (first ++ arguments.filterMap fun
      | .item value => some value
      | .keyword _ _ => none)
    (arguments.filterMap fun
      | .item _ => none
      | .keyword name value => some (name, value))

namespace Reading

def nameEquals : Reading Unit :=
  rule do
    let _ ← name
    mark "="

def badKeyword : Reading Argument :=
  diagnose
    ((do
      let token ← rule (accept fun token => token.isWord "True" || token.isWord "False" || token.isWord "None")
      mark "="
      return some (.assigned token.text)) <|>
    (do
      let _ ← name
      mark "="
      let _ ← call .expression
      let _ ← loops
      return some .assignment) <|>
    (do
      notAhead nameEquals
      let _ ← call .expression
      mark "="
      return some .assignedKeyword))

def keyword : Reading Argument := do
  let name ← name
  mark "="
  let value ← call .expression
  return .keyword (some name) value

def keywordOrStarred : Reading Argument :=
  rule (diagnosed badKeyword <|> keyword <|> (do return .item (← starred)))

def keywordOrUnpacked : Reading Argument :=
  rule
    (diagnosed badKeyword <|> keyword <|>
    (do
      mark "**"
      let pairs ← call .expression
      return .keyword none pairs))

def keywords : Reading (List Argument) :=
  rule
    ((do
      let first ← separated keywordOrStarred
      mark ","
      let rest ← separated keywordOrUnpacked
      return first ++ rest) <|>
    separated keywordOrStarred <|>
    separated keywordOrUnpacked)

def positional : Reading Tree :=
  rule
    (starred <|>
    (do
      let value ← rule (assigned <|> unassigned)
      notAhead (mark "=")
      return value))

def someArguments : Reading Tree :=
  rule
    ((do
      let items ← separated positional
      let rest ← maybe <| rule do
        mark ","
        keywords
      return Argument.collect items (rest.getD [])) <|>
    (do return Argument.collect [] (← keywords)))

def hasSecondItem : Tree → Bool
  | .call _ (_ :: _ :: _) _ => true
  | _ => false

def hasUnpackedPairs : Tree → Bool
  | .call _ _ keywords => keywords.any (·.1.isNone)
  | _ => false

def badArguments : Reading Tree :=
  diagnose
    ((do
      let _ ← someArguments
      mark ","
      mark "*"
      return some .unpackedAfterPairs) <|>
    (do
      let _ ← call .expression
      let _ ← loops
      mark ","
      let _ ← maybe <| rule
        ((do let _ ← someArguments) <|>
        (do
          let _ ← call .expression
          let _ ← loops))
      return some .bareGenerator) <|>
    (do
      let _ ← name
      mark "="
      let _ ← call .expression
      let _ ← loops
      return some .assignment) <|>
    (do
      let all ← someArguments
      let _ ← loops
      return if hasSecondItem all then some .bareGenerator else none) <|>
    (do
      let _ ← someArguments
      mark ","
      let _ ← call .expression
      let _ ← loops
      return some .bareGenerator) <|>
    (do
      let first ← someArguments
      mark ","
      let _ ← someArguments
      return some (if hasUnpackedPairs first then .itemAfterPairs else .itemAfterKeyword)))

def arguments : Reading Tree :=
  (do
    let all ← someArguments
    let _ ← maybe (mark ",")
    ahead (mark ")")
    return all) <|>
  diagnosed badArguments

end Reading

end AlertRange.Expression

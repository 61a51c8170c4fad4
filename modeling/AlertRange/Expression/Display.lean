import AlertRange.Expression.Target

namespace AlertRange.Expression

namespace Reading

def named : Reading Tree :=
  rule (assigned <|> diagnosed (call .misnamed) <|> unassigned)

def starNamed : Reading Tree :=
  rule
    ((do
      mark "*"
      let item ← call .union
      return .starred item) <|>
    named)

def starNamedItems : Reading (List Tree) :=
  rule do
    let items ← separated starNamed
    let _ ← maybe (mark ",")
    return items

def starred : Reading Tree :=
  rule do
    mark "*"
    let item ← call .expression
    return .starred item

def yielded : Reading Tree :=
  rule
    ((do
      word "yield"
      word "from"
      let source ← call .expression
      return .other .yielded [source]) <|>
    (do
      word "yield"
      let value ← maybe starExpressions
      return .other .yielded value.toList))

def badGroup : Reading Tree :=
  diagnose
    ((do
      mark "("
      let _ ← starred
      mark ")"
      return some .starredGroup) <|>
    (do
      mark "("
      mark "**"
      let _ ← call .expression
      mark ")"
      return some .pairsGroup))

def group : Reading Tree :=
  rule
    ((do
      mark "("
      let inner ← rule (yielded <|> named)
      mark ")"
      return inner) <|>
    diagnosed badGroup)

def tuple : Reading Tree :=
  rule do
    mark "("
    let items ← maybe <| rule do
      let first ← starNamed
      mark ","
      let rest ← maybe starNamedItems
      return first :: rest.getD []
    mark ")"
    return .tuple (items.getD [])

def set : Reading Tree :=
  rule do
    mark "\x7b"
    let items ← starNamedItems
    mark "\x7d"
    return .set items

def openRoundOrBrace : Reading Unit :=
  rule (mark "(" <|> mark "\x7b")

def badComprehension : Reading Tree :=
  diagnose
    ((do
      openRoundOrBrace
      let _ ← starred
      let _ ← loops
      return some .unpackedComprehension) <|>
    (do
      rule (mark "\x7b")
      let _ ← starNamed
      mark ","
      let _ ← starNamedItems
      let _ ← loops
      return some .comprehensionTarget) <|>
    (do
      rule (mark "\x7b")
      let _ ← starNamed
      mark ","
      let _ ← loops
      return some .comprehensionTarget))

def setComprehension : Reading Tree :=
  rule
    ((do
      mark "\x7b"
      let item ← named
      let loops ← loops
      mark "\x7d"
      return .other .setComprehension (item :: loops)) <|>
    diagnosed badComprehension)

def generator : Reading Tree :=
  rule
    ((do
      mark "("
      let item ← rule (assigned <|> unassigned)
      let loops ← loops
      mark ")"
      return .other .generator (item :: loops)) <|>
    diagnosed badComprehension)

def pair : Reading (Option Tree × Tree) :=
  rule do
    let key ← call .expression
    mark ":"
    let value ← call .expression
    return (some key, value)

def pairOrUnpacked : Reading (Option Tree × Tree) :=
  rule
    ((do
      mark "**"
      let pairs ← call .union
      return (none, pairs)) <|>
    pair)

def pairs : Reading (List (Option Tree × Tree)) :=
  rule do
    let pairs ← separated pairOrUnpacked
    let _ ← maybe (mark ",")
    return pairs

def closesOrContinues : Reading Unit :=
  rule (mark "\x7d" <|> mark ",")

def badPair : Reading Tree :=
  diagnose
    ((do
      let _ ← call .expression
      notAhead (mark ":")
      return some .noColon) <|>
    (do
      let _ ← call .expression
      mark ":"
      mark "*"
      let _ ← call .union
      return some .starredValue) <|>
    (do
      let _ ← call .expression
      mark ":"
      ahead closesOrContinues
      return some .noValue))

def badPairs : Reading Tree :=
  rule
    ((do
      let _ ← separated pairOrUnpacked
      mark ","
      badPair) <|>
    (do
      let _ ← call .expression
      mark ":"
      mark "*"
      let _ ← call .union
      fail .starredValue) <|>
    (do
      let _ ← call .expression
      mark ":"
      ahead closesOrContinues
      fail .noValue))

def dict : Reading Tree :=
  rule
    ((do
      mark "\x7b"
      let pairs ← maybe pairs
      mark "\x7d"
      return .dict (pairs.getD [])) <|>
    (do
      mark "\x7b"
      let _ ← badPairs
      mark "\x7d"
      refuse))

def badDictComprehension : Reading Tree :=
  diagnose do
    mark "\x7b"
    mark "**"
    let _ ← call .union
    let _ ← loops
    mark "\x7d"
    return some .pairsComprehension

def dictComprehension : Reading Tree :=
  rule
    ((do
      mark "\x7b"
      let pair ← pair
      let loops ← loops
      mark "\x7d"
      return .other .dictComprehension (pair.1.toList ++ pair.2 :: loops)) <|>
    diagnosed badDictComprehension)

end Reading

end AlertRange.Expression

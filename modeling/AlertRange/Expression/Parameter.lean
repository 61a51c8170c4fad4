import AlertRange.Expression.Reading

namespace AlertRange.Expression

namespace Reading

def defaultValue : Reading Unit :=
  rule
    ((do
      mark "="
      let _ ← call .expression) <|>
    diagnosed (diagnose do
      mark "="
      ahead (rule (mark ")" <|> mark ","))
      return some .noDefault))

def parameterName : Reading Unit :=
  rule do
    let _ ← name

def plainParameter : Reading Unit :=
  rule
    ((do
      parameterName
      mark ",") <|>
    (do
      parameterName
      ahead (mark ":")))

def defaultParameter : Reading Unit :=
  rule
    ((do
      parameterName
      defaultValue
      mark ",") <|>
    (do
      parameterName
      defaultValue
      ahead (mark ":")))

def anyParameter : Reading Unit :=
  rule
    ((do
      parameterName
      let _ ← maybe defaultValue
      mark ",") <|>
    (do
      parameterName
      let _ ← maybe defaultValue
      ahead (mark ":")))

def plainBeforeSlash : Reading Unit :=
  rule
    ((do
      let _ ← manyOne plainParameter
      mark "/"
      mark ",") <|>
    (do
      let _ ← manyOne plainParameter
      mark "/"
      ahead (mark ":")))

def defaultBeforeSlash : Reading Unit :=
  rule
    ((do
      let _ ← many plainParameter
      let _ ← manyOne defaultParameter
      mark "/"
      mark ",") <|>
    (do
      let _ ← many plainParameter
      let _ ← manyOne defaultParameter
      mark "/"
      ahead (mark ":")))

def badUnpackedParameter : Reading Unit :=
  diagnose
    ((do
      mark "**"
      parameterName
      mark "="
      return some .pairsDefault) <|>
    (do
      mark "**"
      parameterName
      mark ","
      parameterName
      return some .afterPairs) <|>
    (do
      mark "**"
      parameterName
      mark ","
      rule (mark "*" <|> mark "**" <|> mark "/")
      return some .afterPairs))

def unpackedParameter : Reading Unit :=
  rule
    (diagnosed badUnpackedParameter <|>
    (do
      mark "**"
      plainParameter))

def plainOrComma : Reading Unit :=
  rule (plainParameter <|> mark ",")

def badStarParameters : Reading Unit :=
  diagnose
    ((do
      mark "*"
      rule
        (mark ":" <|>
        (do
          mark ","
          rule (mark ":" <|> mark "**")))
      return some .nothingAfterStar) <|>
    (do
      mark "*"
      parameterName
      mark "="
      return some .starDefault) <|>
    (do
      mark "*"
      plainOrComma
      let _ ← many anyParameter
      mark "*"
      plainOrComma
      return some .secondStar))

def starParameters : Reading Unit :=
  rule
    (diagnosed badStarParameters <|>
    (do
      mark "*"
      plainParameter
      let _ ← many anyParameter
      let _ ← maybe unpackedParameter) <|>
    (do
      mark "*"
      mark ","
      let _ ← manyOne anyParameter
      let _ ← maybe unpackedParameter) <|>
    unpackedParameter)

def parameters : Reading Unit :=
  rule
    ((do
      plainBeforeSlash
      let _ ← many plainParameter
      let _ ← many defaultParameter
      let _ ← maybe starParameters) <|>
    (do
      defaultBeforeSlash
      let _ ← many defaultParameter
      let _ ← maybe starParameters) <|>
    (do
      let _ ← manyOne plainParameter
      let _ ← many defaultParameter
      let _ ← maybe starParameters) <|>
    (do
      let _ ← manyOne defaultParameter
      let _ ← maybe starParameters) <|>
    starParameters)

def anyBeforeSlash : Reading Unit :=
  rule (plainBeforeSlash <|> defaultBeforeSlash)

def badParameters : Reading Unit :=
  diagnose
    ((do
      let _ ← many plainParameter
      rule (defaultBeforeSlash <|> (do let _ ← manyOne defaultParameter))
      plainParameter
      return some .plainAfterDefault) <|>
    (do
      let _ ← many plainParameter
      mark "("
      let _ ← separated parameterName
      let _ ← maybe (mark ",")
      mark ")"
      return some .bracketedParameters) <|>
    (do
      mark "/"
      mark ","
      return some .nothingBeforeSlash) <|>
    (do
      anyBeforeSlash
      let _ ← many anyParameter
      mark "/"
      return some .secondSlash) <|>
    (do
      let _ ← maybe anyBeforeSlash
      let _ ← many anyParameter
      mark "*"
      rule (mark "," <|> plainParameter)
      let _ ← many anyParameter
      mark "/"
      return some .slashAfterStar) <|>
    (do
      let _ ← manyOne anyParameter
      mark "/"
      mark "*"
      return some .noCommaAfterSlash))

end Reading

end AlertRange.Expression

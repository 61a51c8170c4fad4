import AlertRange.Expression.Token

namespace AlertRange.Expression

inductive GrammarFault where
  | misplaced
  | indent
  | dedent
  | noComma
  | noElse
  | noBrackets (function : String)
  | namedTarget (title : String)
  | assignment
  | assignedHere (title : String)
  | assigned (title : String)
  | assignedKeyword
  | unpackedAfterPairs
  | bareGenerator
  | itemAfterKeyword
  | itemAfterPairs
  | unpackedComprehension
  | comprehensionTarget
  | pairsComprehension
  | noColon
  | starredValue
  | noValue
  | starredGroup
  | pairsGroup
  | plainAfterDefault
  | bracketedParameters
  | nothingBeforeSlash
  | secondSlash
  | slashAfterStar
  | noCommaAfterSlash
  | nothingAfterStar
  | starDefault
  | secondStar
  | pairsDefault
  | afterPairs
  | noDefault

namespace GrammarFault

def message : GrammarFault → String
  | .misplaced => "invalid syntax"
  | .indent => "unexpected indent"
  | .dedent => "unexpected unindent"
  | .noComma => "invalid syntax. Perhaps you forgot a comma?"
  | .noElse => "expected 'else' after 'if' expression"
  | .noBrackets function =>
    "Missing parentheses in call to '" ++ function ++ "'. Did you mean " ++ function ++ "(...)?"
  | .namedTarget title => "cannot use assignment expressions with " ++ title
  | .assignment => "invalid syntax. Maybe you meant '==' or ':=' instead of '='?"
  | .assignedHere title =>
    "cannot assign to " ++ title ++ " here. Maybe you meant '==' instead of '='?"
  | .assigned title => "cannot assign to " ++ title
  | .assignedKeyword => "expression cannot contain assignment, perhaps you meant \"==\"?"
  | .unpackedAfterPairs => "iterable argument unpacking follows keyword argument unpacking"
  | .bareGenerator => "Generator expression must be parenthesized"
  | .itemAfterKeyword => "positional argument follows keyword argument"
  | .itemAfterPairs => "positional argument follows keyword argument unpacking"
  | .unpackedComprehension => "iterable unpacking cannot be used in comprehension"
  | .comprehensionTarget => "did you forget parentheses around the comprehension target?"
  | .pairsComprehension => "dict unpacking cannot be used in dict comprehension"
  | .noColon => "':' expected after dictionary key"
  | .starredValue => "cannot use a starred expression in a dictionary value"
  | .noValue => "expression expected after dictionary key and ':'"
  | .starredGroup => "cannot use starred expression here"
  | .pairsGroup => "cannot use double starred expression here"
  | .plainAfterDefault => "non-default argument follows default argument"
  | .bracketedParameters => "Lambda expression parameters cannot be parenthesized"
  | .nothingBeforeSlash => "at least one argument must precede /"
  | .secondSlash => "/ may appear only once"
  | .slashAfterStar => "/ must be ahead of *"
  | .noCommaAfterSlash => "expected comma between / and *"
  | .nothingAfterStar => "named arguments must follow bare *"
  | .starDefault => "var-positional argument cannot have default value"
  | .secondStar => "* argument may appear only once"
  | .pairsDefault => "var-keyword argument cannot have default value"
  | .afterPairs => "arguments cannot follow var-keyword argument"
  | .noDefault => "expected default value expression"

end GrammarFault

inductive EscapeFault where
  | truncated (letter : Char) (digits : Nat)
  | outOfRange
  | malformedName
  | unknownName

namespace EscapeFault

def message : EscapeFault → String
  | .truncated letter digits =>
    "truncated \\" ++ .ofList (letter :: List.replicate digits 'X') ++ " escape"
  | .outOfRange => "illegal Unicode character"
  | .malformedName => "malformed \\N character escape"
  | .unknownName => "unknown Unicode character name"

end EscapeFault

inductive QuotedFault where
  /-- An escape, with the places of its first and last character. -/
  | escape (reason : EscapeFault) (first last : Nat)
  | byteEscape (place : Nat)
  | notAscii
  | mixed

namespace QuotedFault

def message : QuotedFault → String
  | .escape reason first last =>
    "(unicode error) 'unicodeescape' codec can't decode bytes in position " ++ intText first ++ "-" ++
      intText last ++ ": " ++ reason.message
  | .byteEscape place => "(value error) invalid \\x escape at position " ++ intText place
  | .notAscii => "bytes can only contain ASCII literal characters"
  | .mixed => "cannot mix bytes and nonbytes literals"

end QuotedFault

inductive FieldFault where
  | tooDeep
  | loneBrace
  | backslash
  | comment
  | tooManyBrackets
  | unterminated
  | unmatched (bracket : Char)
  | mismatched (closing opening : Char)
  | unclosed
  | empty
  | emptyBefore (mark : Char)
  | conversion

namespace FieldFault

def message : FieldFault → String
  | .tooDeep => "f-string: expressions nested too deeply"
  | .loneBrace => "f-string: single '\x7d' is not allowed"
  | .backslash => "f-string expression part cannot include a backslash"
  | .comment => "f-string expression part cannot include '#'"
  | .tooManyBrackets => "f-string: too many nested parenthesis"
  | .unterminated => "f-string: unterminated string"
  | .unmatched bracket => "f-string: unmatched '" ++ bracket.toString ++ "'"
  | .mismatched closing opening =>
    "f-string: closing parenthesis '" ++ closing.toString ++ "' does not match opening parenthesis '" ++
      opening.toString ++ "'"
  | .unclosed => "f-string: expecting '\x7d'"
  | .empty => "f-string: empty expression not allowed"
  | .emptyBefore mark => "f-string: expression required before '" ++ mark.toString ++ "'"
  | .conversion => "f-string: invalid conversion character: expected 's', 'r', or 'a'"

end FieldFault

inductive Fault where
  | token (fault : TokenFault)
  | grammar (fault : GrammarFault)
  | quoted (fault : QuotedFault)
  | field (fault : FieldFault)
  | formatted (fault : Fault)
  | tooDeep

namespace Fault

def message : Fault → String
  | .token fault => fault.message
  | .grammar fault => fault.message
  | .quoted fault => fault.message
  | .field fault => fault.message
  | .formatted fault => "f-string: " ++ fault.message
  | .tooDeep => ""

end Fault

end AlertRange.Expression

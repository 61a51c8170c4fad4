import AlertRange.Binary64.Layout
import AlertRange.Expression.Literal
import AlertRange.Markup.Style
import AlertRange.Markup.Tag
import AlertRange.Text.Emoji
import AlertRange.Text.Quoted
import AlertRange.Text.Styled

namespace AlertRange.Markup

inductive MarkupError where
  | unmatched (tag : Tag) (position : Nat)
  | nothingToClose (position : Nat)
  /-- Arguments of a handler that cannot be read; the parameters are all that stands in the tag. -/
  | handler (arguments parameters : String) (fault : Expression.Fault)
  | handlerValue (parameters : String) (fault : Expression.LiteralFault)
  | noComponent

namespace MarkupError

def message : MarkupError → String
  | .unmatched tag position =>
    "closing tag '" ++ tag.text ++ "' at position " ++ intText position ++
      " doesn't match any open tag"
  | .nothingToClose position =>
    "closing tag '[/]' at position " ++ intText position ++ " has nothing to close"
  | .handler arguments parameters fault =>
    "error parsing " ++ Text.quoted arguments ++ " in " ++ Text.quoted parameters ++ "; " ++
      fault.message
  | .handlerValue parameters fault =>
    "error parsing " ++ Text.quoted parameters ++ "; " ++ fault.message
  | .noComponent => "invalid literal for int() with base 10: ''"

end MarkupError

def isHandlerNameChar (c : Char) : Bool :=
  Text.isWordChar c || c = '.'

/-- The arguments of a handler: what stands in round brackets after its name, none without brackets. -/
def handlerArguments (parameters : List Char) : List Char :=
  let rest := parameters.dropWhile isHandlerNameChar
  if rest.isEmpty then "()".toList
  else if rest.head? = some '(' ∧ rest.getLast? = some ')' ∧ '\n' ∉ rest then rest
  else parameters

def styleOf (name : String) : Except MarkupError String :=
  match normalStyle name with
  | .ok style => .ok style
  | .error _ => .error .noComponent

namespace Tag

def isEvent (tag : Tag) : Bool :=
  ['@'].isPrefixOf tag.name.toList

def style (tag : Tag) : String :=
  match tag.parameters with
  | none => tag.name
  | some parameters => tag.name ++ " " ++ parameters

def checkHandler (tag : Tag) : Except MarkupError Unit :=
  match tag.isEvent, tag.parameters with
  | true, some parameters =>
    let arguments := handlerArguments (Text.trim Text.isBlank parameters.toList)
    match Expression.valueFault? arguments with
    | some (.text fault) => .error (.handler (.ofList arguments) parameters fault)
    | some (.value fault) => .error (.handlerValue parameters fault)
    | none => .ok ()
  | _, _ => .ok ()

end Tag

structure OpenTag where
  start : Nat
  tag : Tag

def OpenTag.span (opened : OpenTag) (stop : Nat) : Text.Span :=
  ⟨opened.start, stop, opened.tag.style⟩

abbrev OpenTags := List OpenTag

namespace OpenTags

def pop? (style : String) : OpenTags → Option (OpenTag × OpenTags)
  | [] => none
  | opened :: rest =>
    if opened.tag.name = style then some (opened, rest)
    else (pop? style rest).map fun found => (found.1, opened :: found.2)

/-- The tag that a closing tag closes: the last one of its style, or the last one of all. -/
def closed (position : Nat) (tag : Tag) (all : OpenTags) : Except MarkupError (OpenTag × OpenTags) :=
  let name := Text.trim Text.isBlank (tag.name.toList.drop 1)
  if name.isEmpty then
    match all with
    | [] => .error (.nothingToClose position)
    | last :: rest => .ok (last, rest)
  else do
    match pop? (← styleOf (.ofList name)) all with
    | some found => .ok found
    | none => .error (.unmatched tag position)

end OpenTags

def unescaped : List Char → List Char
  | '\\' :: '[' :: rest => '[' :: unescaped rest
  | c :: rest => c :: unescaped rest
  | [] => []

structure Shown where
  text : Text.Styled
  opened : OpenTags

namespace Shown

def nothing : Shown :=
  ⟨⟨[], []⟩, []⟩

def length (shown : Shown) : Nat :=
  shown.text.chars.length

def addSpan (shown : Shown) (span : Text.Span) : Shown :=
  ⟨⟨shown.text.chars, shown.text.spans ++ [span]⟩, shown.opened⟩

def write (shown : Shown) (content : List Char) : Shown :=
  ⟨⟨shown.text.chars ++ Text.printed (Text.withEmoji (unescaped content)), shown.text.spans⟩,
    shown.opened⟩

def close (shown : Shown) (position : Nat) (tag : Tag) : Except MarkupError Shown := do
  let (last, rest) ← shown.opened.closed position tag
  last.tag.checkHandler
  .ok (addSpan ⟨shown.text, rest⟩ (last.span shown.length))

def start (shown : Shown) (tag : Tag) : Except MarkupError Shown := do
  .ok ⟨shown.text, ⟨shown.length, ⟨← styleOf tag.name, tag.parameters⟩⟩ :: shown.opened⟩

def add (shown : Shown) : Piece → Except MarkupError Shown
  | .text content => .ok (shown.write content)
  | .tag position tag => if tag.isClosing then shown.close position tag else shown.start tag

def finish (shown : Shown) : Text.Styled :=
  (shown.opened.foldl (fun shown last => shown.addSpan (last.span shown.length)) shown).text

end Shown

def content (text : String) : Except MarkupError Text.Styled :=
  ((Piece.scan 0 [] text.toList).foldlM Shown.add .nothing).map Shown.finish

theorem unescaped_of_not_mem {cs : List Char} (plain : '[' ∉ cs) : unescaped cs = cs := by
  fun_induction unescaped cs with
  | case1 rest _ => simp at plain
  | case2 c rest _ ih => rw [ih fun member => plain (List.mem_cons_of_mem c member)]
  | case3 => rfl

theorem withEmoji_of_not_mem {cs : List Char} (plain : ':' ∉ cs) : Text.withEmoji cs = cs := by
  induction cs with
  | nil => simp [Text.withEmoji]
  | cons c rest ih =>
    have other : c ≠ ':' := fun same => plain (same ▸ List.mem_cons_self)
    rw [Text.withEmoji, if_neg other, ih fun member => plain (List.mem_cons_of_mem c member)]

theorem write_nothing (cs : List Char) (brackets : '[' ∉ cs) (colons : ':' ∉ cs) :
    (Shown.nothing.write cs).finish = ⟨Text.printed cs, []⟩ := by
  simp [Shown.write, Shown.nothing, Shown.finish, unescaped_of_not_mem brackets,
    withEmoji_of_not_mem colons]

theorem content_of_plain {text : String} (brackets : '[' ∉ text.toList) (colons : ':' ∉ text.toList) :
    content text = .ok (.plain text) := by
  have whole := write_nothing text.toList brackets colons
  rw [content, Piece.scan_of_not_mem brackets, List.reverse_nil, List.nil_append, Piece.ofText]
  split
  · next empty =>
    rw [List.isEmpty_iff] at empty
    simp [Text.Styled.plain, empty, Text.printed, Shown.nothing, Shown.finish, Except.map, pure,
      Except.pure]
  · simp only [List.foldlM_cons, List.foldlM_nil, Shown.add, bind, Except.bind, pure, Except.pure,
      Except.map, whole, Text.Styled.plain]

end AlertRange.Markup

import Handoff.Markup.Element
import Handoff.Text.Blank
import Handoff.Text.WordChar

/-!
# Scanning markup for tags

Which tags a text contains, and which of them it leaves open.  The scan is lenient: a closing tag
that does not match the innermost open one is passed over, and elements without content never open.

A tag reaches from `<` to the next `>`, so between two `>` there is at most one.
-/

namespace Handoff.Markup
open Text (isBlank isWord trimEnd)

inductive Token where
  | opening (name : List Char)
  | closing (name : List Char)
  /-- An element without content. -/
  | standalone (name : List Char)
  deriving DecidableEq

/-- Elements that never have content. -/
def voidElements : List String :=
  ["input", "img", "br", "hr", "meta", "link"]

/-- Whether elements called `name`, in any letter case, never have content. -/
def isVoid (name : List Char) : Bool :=
  voidElements.any fun v => v.toList = name.map Char.toLower

/-- The characters of a tag name behind the first. -/
def isNameChar (c : Char) : Bool :=
  isWord c || c == '-'

/-- The tag whose text begins with an ASCII letter. -/
def namedTag? : List Char → Option (List Char × List Char)
  | [] => none
  | c :: cs => if c.isAlpha then some ((c :: cs).span isNameChar) else none

/-- The token of a tag, given what stands between its brackets. -/
def tokenOf? (inner : List Char) : Option Token :=
  match inner with
  | '/' :: cs => (namedTag? cs).map fun (name, _) => .closing name
  | cs => (namedTag? cs).map fun (name, rest) =>
    if (trimEnd rest).getLast? = some '/' || isVoid name then .standalone name else .opening name

/-- The tag in a text that ends where a `>` follows: the first `<` that begins one. -/
def tokenIn? : List Char → Option Token
  | [] => none
  | c :: cs =>
    match if c = '<' then tokenOf? cs else none with
    | some t => some t
    | none => tokenIn? cs

/-- The tags of a text in order. -/
def tokens (s : List Char) : List Token :=
  (s.splitOn '>').dropLast.filterMap tokenIn?

/-- The names of the open tags, innermost first, after another tag. -/
def afterToken (stack : List (List Char)) : Token → List (List Char)
  | .opening name => name :: stack
  | .closing name => if stack.head? = some name then stack.tail else stack
  | .standalone _ => stack

/-- The names of the tags that a text leaves open, outermost first. -/
def openTags (s : List Char) : List (List Char) :=
  ((tokens s).foldl afterToken []).reverse

/-- The element that is closed where none is open. -/
def defaultElement : String := "div"

/-- The closing tag for the outermost tag that a text leaves open. -/
def closingTag (markup : String) : String :=
  Tag.closing (((openTags markup.toList).head?.map String.ofList).getD defaultElement)

end Handoff.Markup

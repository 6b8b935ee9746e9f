import Handoff.Markup.Escape
import Handoff.Script.Expr

/-!
# Elements

The tags that components are made of.  A container writes its opening tag and its closing tag at
different times, so the two can be had by themselves.
-/

namespace Handoff.Markup

inductive Attribute where
  /-- A text of the design, escaped. -/
  | text (name value : String)
  /-- A value that is written as it is given. -/
  | verbatim (name value : String)
  /-- An expression of the script. -/
  | expr (name : String) (value : Script.Expr)
  /-- A name that says all. -/
  | flag (name : String)

namespace Attribute

/-- The attribute with a blank before it. -/
def render : Attribute → String
  | text name value => " " ++ name ++ "=\"" ++ escapeAttribute value ++ "\""
  | verbatim name value => " " ++ name ++ "=\"" ++ value ++ "\""
  | expr name value => " " ++ name ++ "=\x7b" ++ value.render ++ "\x7d"
  | flag name => " " ++ name

/-- A flag that is there only if it is set. -/
def flagIf (name : String) (set : Bool) : List Attribute :=
  if set then [flag name] else []

end Attribute

/-- A tag by its name and attributes. -/
structure Tag where
  name : String
  attributes : List Attribute

namespace Tag

/-- The tag that opens an element. -/
def opening (t : Tag) : String :=
  "<" ++ t.name ++ String.join (t.attributes.map Attribute.render) ++ ">"

/-- The tag that closes an element. -/
def closing (name : String) : String :=
  "</" ++ name ++ ">"

/-- The element around `content`. -/
def around (t : Tag) (content : String) : String :=
  t.opening ++ content ++ closing t.name

end Tag

end Handoff.Markup

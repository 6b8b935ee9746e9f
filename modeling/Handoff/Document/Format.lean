import Handoff.Markup.Layout
import Handoff.Script.Layout
import Handoff.Style.Layout
import Handoff.Text.Find

/-!
# Formatting documents

The script block, the markup and the style block of a document are formatted each by itself and
written in this order with blank lines between them.  Empty ones are left out.
-/

namespace Handoff.Document
open Text (cut)

/-- A block of a document: what stands in its opening tag behind the name, what stands inside of
it, and the document around it. -/
structure Block where
  attributes : List Char
  body : List Char
  before : List Char
  after : List Char

/-- The first block between tags called `name`. -/
def block? (name : String) (document : List Char) : Option Block := do
  let (before, rest) ← cut ('<' :: name.toList) document
  let (attributes, rest) ← cut ['>'] rest
  let (body, after) ← cut ("</".toList ++ name.toList ++ ['>']) rest
  return ⟨attributes, body, before, after⟩

/-- A document without its first block between tags called `name`. -/
def without (name : String) (document : List Char) : List Char :=
  match block? name document with
  | some b => b.before ++ b.after
  | none => document

/-- The first block between tags called `name`, with its body formatted; empty if the body is. -/
def formatBlock (name : String) (format : List Char → List Char) (document : List Char) :
    List Char :=
  match block? name document with
  | none => []
  | some b =>
    let body := format b.body
    if body.isEmpty then []
    else '<' :: name.toList ++ b.attributes ++ ['>', '\n'] ++ body ++ "\n</".toList ++ name.toList
      ++ ['>']

/-- Formats a document. -/
def format (document : List Char) : List Char :=
  let sections :=
    [formatBlock "script" Script.format document,
      Markup.format (without "style" (without "script" document)),
      formatBlock "style" Style.format document]
  ['\n', '\n'].intercalate (sections.filter (!·.isEmpty))

end Handoff.Document

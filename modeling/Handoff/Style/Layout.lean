import Handoff.Text.Blank

/-!
# Formatting style sheets

Every rule on lines of its own, indented once, and every declaration on a line, indented twice.
Rules without declarations are dropped.
-/

namespace Handoff.Style
open Text (trim singleSpaced)

/-- The declarations in the body of a rule. -/
def declarations (body : List Char) : List (List Char) :=
  ((body.splitOn ';').map trim).filter (!·.isEmpty)

/-- Lays out one rule. -/
def layoutRule (selector : List Char) (ds : List (List Char)) : List Char :=
  '\t' :: selector ++ [' ', '\x7b', '\n']
    ++ ['\n'].intercalate (ds.map fun d => ['\t', '\t'] ++ d ++ [';'])
    ++ ['\n', '\t', '\x7d']

/-- Lays out what stands between two closing braces, or behind the last, if it is a rule that
declares anything. -/
def layoutChunk (chunk : List Char) : Option (List Char) :=
  let selector := singleSpaced (chunk.takeWhile (· != '\x7b'))
  match chunk.dropWhile (· != '\x7b') with
  | [] => none
  | _ :: body =>
    let ds := declarations body
    if selector.isEmpty || ds.isEmpty then none else some (layoutRule selector ds)

/-- Formats a style sheet. -/
def format (style : List Char) : List Char :=
  ['\n', '\n'].intercalate ((style.splitOn '\x7d').filterMap layoutChunk)

end Handoff.Style

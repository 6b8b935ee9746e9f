import Handoff.Markup.Scan

/-!
# Formatting markup

Every tag starts a line, with the text behind it, and is indented once for each open element.  An
element that is closed right behind its opening line stays on that line.
-/

namespace Handoff.Markup
open Text (trim)

/-- The pieces of a text, each but the first one beginning with `<`. -/
def pieces (s : List Char) : List (List Char) :=
  s.foldr
    (fun c ps =>
      match ps with
      | [] => [[c]]
      | p :: ps => if c = '<' then [] :: (c :: p) :: ps else (c :: p) :: ps)
    [[]]

/-- The tag that a piece begins with, if it does. -/
def pieceToken? (piece : List Char) : Option Token :=
  match piece with
  | '<' :: _ => (tokens piece).head?
  | _ => none

/-- The lines written so far and the names of the open elements, both with the last one first; and
whether the last line has just opened an element. -/
structure LayoutState where
  lines : List (List Char)
  stack : List (List Char)
  justOpened : Bool

namespace LayoutState

/-- Starts a line, indented by the open elements. -/
def newLine (s : LayoutState) (piece : List Char) : LayoutState :=
  ⟨(List.replicate s.stack.length '\t' ++ piece) :: s.lines, s.stack, false⟩

/-- Adds to the last line. -/
def extendLine (s : LayoutState) (piece : List Char) : LayoutState :=
  match s.lines with
  | [] => ⟨[piece], s.stack, false⟩
  | l :: ls => ⟨(l ++ piece) :: ls, s.stack, false⟩

/-- Writes a piece. -/
def write (s : LayoutState) (piece : List Char) : LayoutState :=
  match pieceToken? piece with
  | some (.closing name) =>
    if s.stack.head? = some name then
      let t : LayoutState := { s with stack := s.stack.tail }
      if s.justOpened then t.extendLine piece else t.newLine piece
    else s.newLine piece
  | some (.opening name) =>
    let t := s.newLine piece
    ⟨t.lines, name :: t.stack, true⟩
  | _ => s.newLine piece

end LayoutState

/-- Formats markup. -/
def format (markup : List Char) : List Char :=
  let ps := ((pieces markup).map trim).filter (!·.isEmpty)
  ['\n'].intercalate (ps.foldl LayoutState.write ⟨[], [], false⟩).lines.reverse

end Handoff.Markup

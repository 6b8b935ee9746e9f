import Handoff.Script.Statement
import Handoff.Style.Rule

/-!
# Fragments

A component has three sections.  A `Fragment` is what a part of the scene contributes to each of
them, as text; a `Piece` is what a single node contributes, before it is written.
-/

namespace Handoff

structure Fragment where
  script : String
  markup : String
  style : String

namespace Fragment

def empty : Fragment :=
  ⟨"", "", ""⟩

def isEmpty (f : Fragment) : Bool :=
  f.script.isEmpty && f.markup.isEmpty && f.style.isEmpty

/-- One fragment behind the other, section by section. -/
def append (f g : Fragment) : Fragment :=
  ⟨f.script ++ g.script, f.markup ++ g.markup, f.style ++ g.style⟩

instance : Append Fragment := ⟨append⟩

end Fragment

structure Piece where
  statements : List Script.Statement
  markup : String
  rules : List Style.Rule

namespace Piece

def empty : Piece :=
  ⟨[], "", []⟩

/-- The piece, written. -/
def fragment (p : Piece) : Fragment :=
  ⟨Script.render p.statements, p.markup, Style.render p.rules⟩

end Piece

end Handoff

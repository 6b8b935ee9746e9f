import Handoff.Component.Error
import Handoff.Component.Route
import Handoff.Markup.Scan

/-!
# Assembling components

The fragment of a node: what it contributes by itself, and for a container the fragments of its
children and the closing tag.  Which element is to be closed is read off the markup.

The children of a group are placed in the coordinates of what surrounds the group, so every child
gets the origin of the group as two variables, and takes it off its own place.
-/

namespace Handoff

namespace Fragment

/-- The fragment with the outermost open tag closed. -/
def close (f : Fragment) : Fragment :=
  { f with markup := f.markup ++ Markup.closingTag f.markup }

/-- The fragment of a child of a group, with the origin of the group bound on its own rule. -/
def bindOrigin (s : Setting) (origin : Option Point) (n : Node) (f : Fragment) : Fragment :=
  match origin, (Route.ofNode s.catalogs.components n).selector? with
  | some p, some selector =>
    if f.isEmpty then f
    else { f with style := (Style.groupOrigin selector (s.rem p.x) (s.rem p.y)).render ++ f.style }
  | _, _ => f

end Fragment

/-- The fragment of a node, given that of its children: nothing for a hidden node. -/
def Node.complete (s : Setting) (grouped : Bool) (n : Node)
    (children : Except GenerationError Fragment) : Except GenerationError Fragment :=
  match n.layer? with
  | none => .ok .empty
  | some l => do
    l.checkGeometry
    if l.visible then
      let route := Route.ofNode s.catalogs.components n
      let own := (route.piece s grouped).fragment
      if route.isContainer then return (own ++ (← children)).close else return own
    else return .empty

mutual

/-- The fragment of a node, whose parent is a group if it is given the origin of one. -/
def Node.assemble (s : Setting) (origin : Option Point) : Node → Except GenerationError Fragment
  | .frame r l b cs => Node.complete s origin.isSome (.frame r l b cs) (assembleAll s none cs)
  | .inst l b ps cs es =>
    Node.complete s origin.isSome (.inst l b ps cs es) (assembleAll s none cs)
  | .group l cs => Node.complete s origin.isSome (.group l cs) (assembleAll s (some l.origin) cs)
  | .text l t => Node.complete s origin.isSome (.text l t) (.ok .empty)
  | .shape f l o => Node.complete s origin.isSome (.shape f l o) (.ok .empty)
  | .unsupported => Node.complete s origin.isSome .unsupported (.ok .empty)

/-- The fragments of nodes, one behind the other. -/
def assembleAll (s : Setting) (origin : Option Point) :
    List Node → Except GenerationError Fragment
  | [] => .ok .empty
  | n :: ns => do
    let f ← Node.assemble s origin n
    let fs ← assembleAll s origin ns
    return f.bindOrigin s origin n ++ fs

end

/-- The fragment of a whole scene. -/
def Node.generate (s : Setting) (root : Node) : Except GenerationError Fragment := do
  s.options.check
  root.assemble s none

end Handoff

import Handoff.Style.Measure

/-!
# Style rules

A rule sets properties on what its selector selects.  It is written on one line; the formatter gives
every declaration a line of its own.
-/

namespace Handoff.Style

structure Rule where
  selector : String
  declarations : List (String × String)

namespace Rule

/-- A declaration that is left out when it has no value. -/
def optional (property : String) (value : Option String) : List (String × String) :=
  value.toList.map fun v => (property, v)

/-- One declaration with a blank before it. -/
def declaration (d : String × String) : String :=
  " " ++ d.1 ++ ": " ++ d.2 ++ ";"

/-- The rule on a line of its own. -/
def render (r : Rule) : String :=
  r.selector ++ " \x7b" ++ String.join (r.declarations.map declaration) ++ " \x7d\n"

end Rule

/-- Rules, one on each line. -/
def render (rules : List Rule) : String :=
  String.join (rules.map Rule.render)

/-! ### Classes and variables that components share -/

/-- The class of every frame. -/
def frameClass : String := "frame-node"

/-- The class of every group. -/
def groupClass : String := "group-node"

/-- The custom properties that hold the origin of the group around a layer. -/
def groupLeft : String := "--parentXpos"

def groupTop : String := "--parentYpos"

/-- The selector of a class. -/
def classSelector (cls : String) : String :=
  "." ++ cls

/-- The selector of the children of class `cls` of an element of class `parent`, wherever they
are declared. -/
def childSelector (parent cls : String) : String :=
  ":global(." ++ parent ++ " > ." ++ cls ++ ")"

/-- Places a layer inside its group: the origin of the group is taken from the place of the
layer. -/
def inGroup (cls left top : String) : Rule :=
  ⟨childSelector groupClass cls,
    [("left", "calc(" ++ left ++ " - var(" ++ groupLeft ++ ")) !important"),
      ("top", "calc(" ++ top ++ " - var(" ++ groupTop ++ ")) !important")]⟩

/-- Binds the origin of a group on one of its children. -/
def groupOrigin (selector left top : String) : Rule :=
  ⟨selector, [(groupLeft, left), (groupTop, top)]⟩

end Handoff.Style

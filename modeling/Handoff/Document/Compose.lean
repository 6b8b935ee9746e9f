import Handoff.Component.Fragment

/-!
# Documents

A component is one document: a script block, the markup, and a style block.
-/

namespace Handoff

/-- The document of a component, unformatted. -/
def Fragment.document (f : Fragment) : String :=
  "<script lang=\"ts\">" ++ f.script ++ "</script> " ++ f.markup ++ " <style>" ++ f.style
    ++ "</style>"

end Handoff

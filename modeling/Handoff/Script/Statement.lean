import Handoff.Script.Expr

/-!
# Script statements

The two kinds of statements that scripts of components consist of, each on a line of its own.
-/

namespace Handoff.Script

inductive Statement where
  /-- Imports names from a module, which is written as it is given. -/
  | imports (names : List String) (source : String)
  | declare (name : String) (value : Literal)

namespace Statement

/-- The statement without what ends it. -/
def body : Statement → String
  | imports names source =>
    "import \x7b " ++ ", ".intercalate names ++ " \x7d from \"" ++ source ++ "\""
  | declare name value => "let " ++ name ++ " = " ++ value.render

/-- The statement on a line of its own. -/
def render (s : Statement) : String :=
  s.body ++ ";\n"

theorem render_imports (names : List String) (source : String) :
    (imports names source).render =
      "import \x7b " ++ ", ".intercalate names ++ " \x7d from \"" ++ source ++ "\";\n" := by
  rw [render, body, String.append_assoc]
  rfl

theorem render_declare (name : String) (value : Literal) :
    (declare name value).render = "let " ++ name ++ " = " ++ value.render ++ ";\n" := rfl

end Statement

/-- Statements, one on each line. -/
def render (statements : List Statement) : String :=
  String.join (statements.map Statement.render)

end Handoff.Script

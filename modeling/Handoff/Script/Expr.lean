import Handoff.Style.Measure

/-!
# Script expressions

The expressions that components are given in their markup, and the literals that variables start
with.
-/

namespace Handoff.Script

/-- An expression in braces in the markup. -/
inductive Expr where
  | boolean (value : Bool)
  | null
  | number (value : Float)
  /-- A variable or an import. -/
  | name (name : String)

namespace Expr

def render : Expr → String
  | boolean b => if b then "true" else "false"
  | null => "null"
  | number x => Style.number x
  | name n => n

end Expr

/-! ### Literals -/

/-- A character inside double quotes. -/
def escapeDouble (c : Char) : List Char :=
  if c = '"' then ['\\', '"']
  else if c = '\\' then ['\\', '\\']
  else if c = '\x08' then ['\\', 'b']
  else if c = '\t' then ['\\', 't']
  else if c = '\n' then ['\\', 'n']
  else if c = '\x0c' then ['\\', 'f']
  else if c = '\r' then ['\\', 'r']
  else if c.toNat < 0x20 then
    ['\\', 'u', '0', '0', Nat.digitChar (c.toNat / 16), Nat.digitChar (c.toNat % 16)]
  else [c]

/-- A text between double quotes. -/
def doubleQuoted (s : String) : String :=
  String.ofList ('"' :: s.toList.flatMap escapeDouble ++ ['"'])

/-- A character inside single quotes. -/
def escapeSingle (c : Char) : List Char :=
  if c = '\\' then ['\\', '\\'] else if c = '\'' then ['\\', '\''] else [c]

/-- A text between single quotes. -/
def singleQuoted (s : String) : String :=
  String.ofList ('\'' :: s.toList.flatMap escapeSingle ++ ['\''])

/-- What a variable starts with. -/
inductive Literal where
  | boolean (value : Bool)
  | text (value : String)
  | texts (items : List String)

namespace Literal

def render : Literal → String
  | boolean b => (Expr.boolean b).render
  | text s => singleQuoted s
  | texts items => "[" ++ ", ".intercalate (items.map doubleQuoted) ++ "]"

end Literal

end Handoff.Script

import Handoff.Text.Blank

/-!
# Splitting scripts into statements

Statements end at semicolons outside of string literals and brackets.
-/

namespace Handoff.Script

/-- Where in a script a character stands: inside a literal with the given quote, right behind a
backslash or not, and inside how many brackets. -/
structure Position where
  quote : Option Char
  escaped : Bool
  depth : Nat

namespace Position

/-- Outside of everything. -/
def outside : Position :=
  ⟨none, false, 0⟩

/-- The position behind `c`. -/
def after (p : Position) (c : Char) : Position :=
  match p.quote with
  | some q =>
    if p.escaped then ⟨some q, false, p.depth⟩
    else if c = '\\' then ⟨some q, true, p.depth⟩
    else if c = q then ⟨none, false, p.depth⟩
    else p
  | none =>
    if c == '"' || c == '\'' || c == '\x60' then ⟨some c, false, p.depth⟩
    else if c == '(' || c == '[' || c == '\x7b' then ⟨none, false, p.depth + 1⟩
    else if c == ')' || c == ']' || c == '\x7d' then ⟨none, false, p.depth - 1⟩
    else p

/-- Whether `c` ends a statement. -/
def endsAt (p : Position) (c : Char) : Bool :=
  p.quote.isNone && c == ';' && p.depth == 0

end Position

/-- The texts between the characters that end statements, where `seen` stands before the script in
reverse order and `done` are the texts before that, in reverse order. -/
def splitFrom (p : Position) (seen : List Char) (done : List (List Char)) :
    List Char → List (List Char)
  | [] => (seen.reverse :: done).reverse
  | c :: cs =>
    if p.endsAt c then splitFrom p [] (seen.reverse :: done) cs
    else splitFrom (p.after c) (c :: seen) done cs

/-- The statements of a script, without what ends them. -/
def statements (script : List Char) : List (List Char) :=
  ((splitFrom .outside [] [] script).map Text.trim).filter (!·.isEmpty)

end Handoff.Script

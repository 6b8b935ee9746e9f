import Handoff.Text.Blank

/-!
# Merging imports

Imports are grouped by the module that they name.  Named imports of one module become one statement;
all others are kept, each of them once.
-/

namespace Handoff.Script
open Text (isBlank trim singleSpaced)

/-- Whether a statement is an import: the word and then a blank, a brace or a quote. -/
def isImport (statement : List Char) : Bool :=
  match "import".toList.isPrefixOf? statement with
  | some (c :: _) => isBlank c || c == '\x7b' || c == '"' || c == '\''
  | _ => false

def isQuote (c : Char) : Bool :=
  c == '"' || c == '\''

/-- The text between the last two quotes of a statement that ends with one, when they are not next
to each other. -/
def finalQuoted? (statement : List Char) : Option (List Char × List Char) :=
  match statement.reverse with
  | q :: cs =>
    let (text, before) := cs.span (!isQuote ·)
    if isQuote q && !text.isEmpty && !before.isEmpty then
      some (before.tail.reverse, text.reverse)
    else none
  | [] => none

/-- An import with single spaces. -/
inductive Import where
  | named (names : List (List Char)) (source : List Char)
  | other (statement source : List Char)

/-- `text` without the given beginning and the blanks behind it. -/
def dropWord? (word text : List Char) : Option (List Char) :=
  (word.isPrefixOf? text).map (·.dropWhile isBlank)

/-- The list in the braces of a named import, given what stands before its module. -/
def bracedNames? (clause : List Char) : Option (List Char) := do
  let rest ← dropWord? "import".toList clause
  match rest with
  | '\x7b' :: cs =>
    let (names, rest) := cs.span (· != '\x7d')
    match rest with
    | '\x7d' :: rest =>
      let rest ← dropWord? "from".toList (rest.dropWhile isBlank)
      if rest.isEmpty then some names else none
    | _ => none
  | _ => none

/-- The names in a list with commas. -/
def splitNames (names : List Char) : List (List Char) :=
  ((names.splitOn ',').map trim).filter (!·.isEmpty)

/-- Reads an import. -/
def Import.ofStatement (statement : List Char) : Import :=
  let s := singleSpaced statement
  match finalQuoted? s with
  | some (clause, source) =>
    match bracedNames? clause with
    | some names => .named (splitNames names) source
    | none => .other s source
  | none => .other s s

/-- The imports of one module: names, and statements kept as they are. -/
structure ImportGroup where
  source : List Char
  names : List (List Char)
  others : List (List Char)

/-- `xs` and behind them those of `ys` that are not there yet. -/
def addNew (xs ys : List (List Char)) : List (List Char) :=
  ys.foldl (fun xs y => if xs.contains y then xs else xs ++ [y]) xs

namespace ImportGroup

/-- Adds an import of the same module. -/
def add (g : ImportGroup) : Import → ImportGroup
  | .named names _ => { g with names := addNew g.names names }
  | .other s _ => { g with others := addNew g.others [s] }

/-- The statements of a group: the names together, then the others. -/
def lines (g : ImportGroup) : List (List Char) :=
  (if g.names.isEmpty then []
    else ["import \x7b ".toList ++ [',', ' '].intercalate g.names ++ " \x7d from \"".toList
      ++ g.source ++ ['"', ';']])
    ++ g.others.map (· ++ [';'])

end ImportGroup

def Import.source : Import → List Char
  | named _ source => source
  | other _ source => source

/-- Adds an import to the group of its module, which comes last if it is new. -/
def addImport (i : Import) : List ImportGroup → List ImportGroup
  | [] => [ImportGroup.add ⟨i.source, [], []⟩ i]
  | g :: gs => if g.source = i.source then g.add i :: gs else g :: addImport i gs

/-- The statements of imports, merged. -/
def mergeImports (imports : List (List Char)) : List (List Char) :=
  (imports.foldl (fun gs s => addImport (.ofStatement s) gs) []).flatMap ImportGroup.lines

end Handoff.Script

import Handoff.Json.Record

/-!
# Catalogs

What is known about the design system: which custom property a colour token is written as, and which
instances are widgets and icons.
-/

namespace Handoff
open Json

/-- The custom properties of colour tokens, by the ids of the tokens. -/
structure TokenCatalog where
  entries : List (String × String)

/-- The custom property of a token; the last entry counts. -/
def TokenCatalog.lookup (c : TokenCatalog) (id : String) : Option String :=
  c.entries.reverse.lookup id

/-- The names by which instances of widgets and of icons are recognised. -/
structure ComponentCatalog where
  components : List String
  icons : List String

namespace ComponentCatalog

def isComponent (c : ComponentCatalog) (name : String) : Bool :=
  c.components.contains name

def isIcon (c : ComponentCatalog) (name : String) : Bool :=
  c.icons.contains name

end ComponentCatalog

structure Catalogs where
  tokens : TokenCatalog
  components : ComponentCatalog

/-! ### Reading catalogs -/

/-- Names in an array. -/
def namesOfDraft : Draft → Decoded (List String) :=
  Draft.listOf (Draft.simple Value.text)

def TokenCatalog.entryFields : Fields Draft (String × String) :=
  Prod.mk <$> .required "id" (Draft.simple Value.text)
    <*> .required "varName" (Draft.simple Value.text)

def ComponentCatalog.fields : Fields Draft ComponentCatalog :=
  ComponentCatalog.mk <$> .optional "componentNames" namesOfDraft []
    <*> .optional "iconNames" namesOfDraft []

/-- The token catalog in a text. -/
def TokenCatalog.ofText (text : String) : Decoded TokenCatalog :=
  let entry := entryFields.readDraft "TokenEntry" fun _ => .unreadable .malformed
  Draft.decode (fun d => do return ⟨← Draft.listOf entry d⟩) text

/-- The component catalog in a text. -/
def ComponentCatalog.ofText (text : String) : Decoded ComponentCatalog :=
  Draft.decode (fields.readDraft "ComponentCatalog" fun _ => .unreadable .malformed) text

end Handoff

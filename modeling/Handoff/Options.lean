import Handoff.Json.Record

/-!
# Options

What a caller may choose about the components that are generated.
-/

namespace Handoff
open Json

structure Options where
  /-- The pixels that make one `rem`. -/
  baseFontSize : Float
  /-- The module that widgets are imported from. -/
  library : String
  /-- The module that icons are imported from. -/
  iconModule : String
  /-- The token for icons whose colour is bound to none. -/
  defaultIconColor : String
  /-- Whether the finished document is formatted. -/
  format : Bool

namespace Options

def default : Options where
  baseFontSize := 16
  library := "deskblocks"
  iconModule := "deskblocks/icons"
  defaultIconColor := "--db-color-icon"
  format := true

/-- Lengths are divided by the base font size, so it has to be finite and positive. -/
def hasUsableBase (o : Options) : Bool :=
  o.baseFontSize.isFinite && 0 < o.baseFontSize

/-- Every option keeps its default where it is absent. -/
def fields : Fields Draft Options :=
  Options.mk <$> .optional "baseFontSize" (Draft.simple Value.double) default.baseFontSize
    <*> .optional "library" (Draft.simple Value.text) default.library
    <*> .optional "iconModule" (Draft.simple Value.text) default.iconModule
    <*> .optional "defaultIconColor" (Draft.simple Value.text) default.defaultIconColor
    <*> .optional "format" (Draft.simple Value.flag) default.format

/-- The options in a value, whether usable or not. -/
def ofValue (v : Value) : Decoded Options :=
  fields.readDraft "GenerateOptions" (.wrongLength · .noMoreItems) (.ofValue v)

/-- The options in a text, whether usable or not. -/
def ofText (text : String) : Decoded Options :=
  Draft.decode (fields.readDraft "GenerateOptions" fun _ => .unreadable .malformed) text

end Options

end Handoff

import Handoff.Json.Record
import Handoff.Json.Tagged
import Handoff.Scene.Node

/-!
# Reading scenes

Scenes come as JSON: objects with one member for every attribute, and with the kind of a node or
paint in a tag called `type`.

A node is read in a fixed order: its tag, its own attributes in the order of the object, then the
groups of attributes that it shares with other kinds, one after the other.  This decides which
error is reported where there are several.

* `Node.ofValue`: a scene from a value.
* `Node.ofText`: a scene from a text, where reading stops at the first fault.
-/

namespace Handoff
open Json

/-! ### Colours, paints and effects -/

def Rgb.fields : Fields Value Rgb :=
  Rgb.mk <$> .required "r" Value.double <*> .required "g" Value.double
    <*> .required "b" Value.double

def Rgba.fields : Fields Value Rgba :=
  Rgba.mk <$> .required "r" Value.double <*> .required "g" Value.double
    <*> .required "b" Value.double <*> .optional "a" Value.double 1

/-- A reference to a design token. -/
def tokenReference : Fields Value String :=
  .required "id" Value.text

/-- The design token bound to the colour of a paint. -/
def boundToken : Fields Value (Option String) :=
  .optional "color" (Value.orNull (tokenReference.read "VariableAlias")) none

def SolidPaint.fields : Fields Value SolidPaint :=
  SolidPaint.mk <$> .required "color" (Rgb.fields.read "Rgb")
    <*> .optional "visible" Value.flag true
    <*> .optional "opacity" Value.double 1
    <*> .optional "boundVariables"
      (fun v => (Value.orNull (boundToken.read "BoundVariables") v).map Option.join) none

/-- Reads a paint. -/
def Paint.ofValue (form : TagForm) (v : Value) : Decoded Paint := do
  let (tag, body) ← untag form "type" "Paint" v
  match tag.find? [("SOLID", true), ("OTHER", false)] with
  | some true => return .solid (← SolidPaint.fields.read "SolidPaint" body.value)
  | _ =>
    body.ignore
    return .other

/-- Reads the paints of a layer. -/
def Paint.listOfValue (form : TagForm) : Value → Decoded (List Paint) :=
  Value.listOf (Paint.ofValue form)

def Point.fields : Fields Value Point :=
  Point.mk <$> .required "x" Value.double <*> .required "y" Value.double

def Shadow.fields : Fields Value Shadow :=
  Shadow.mk <$> .required "color" (Rgba.fields.read "Rgba")
    <*> .required "offset" (Point.fields.read "Vector")
    <*> .required "radius" Value.double
    <*> .optional "spread" Value.double 0

/-- Reads an effect. -/
def Effect.ofValue (v : Value) : Decoded Effect := do
  let (tag, body) ← untag .nameOrIndex "type" "Effect" v
  match tag.find? [("DROP_SHADOW", true), ("OTHER", false)] with
  | some true => return .dropShadow (← Shadow.fields.read "Shadow" body.value)
  | _ =>
    body.ignore
    return .other

/-! ### Attributes with few values -/

/-- The name of a choice: a text, or the key of an object whose only member holds nothing. -/
def choiceName : Value → Decoded (String × Option Value)
  | .string s => .ok (s, none)
  | .object [(s, v)] => .ok (s, some v)
  | .object _ => .error (.wrongValue .map .singleChoice)
  | v => v.mistyped .choice

/-- Nothing: `null`, or an object without members. -/
def nothing : Value → Decoded Unit
  | .null => .ok ()
  | .object [] => .ok ()
  | v => v.mistyped .nothing

/-- Reads one of the named choices; a name that is not among them is an error unless there is a
choice for others. -/
def choice {α : Type} (choices : List (String × α)) (other : Option α) (v : Value) :
    Decoded α := do
  let (name, content) ← choiceName v
  match (choices.lookup name).or other with
  | none => throw (.unknownVariant name (choices.map (·.1)))
  | some a =>
    match content with
    | none => return a
    | some c =>
      nothing c
      return a

def LayoutMode.ofValue : Value → Decoded LayoutMode :=
  choice [("HORIZONTAL", .horizontal), ("VERTICAL", .vertical), ("NONE", .none)] (some .none)

def LayoutWrap.ofValue : Value → Decoded LayoutWrap :=
  choice [("NO_WRAP", .noWrap), ("WRAP", .wrap)] none

def AxisAlign.ofValue : Value → Decoded AxisAlign :=
  choice [("MIN", .min), ("CENTER", .center), ("MAX", .max), ("SPACE_BETWEEN", .spaceBetween),
    ("BASELINE", .baseline)] none

def AxisSizing.ofValue : Value → Decoded AxisSizing :=
  choice [("FIXED", .fixed), ("AUTO", .auto)] none

def LayoutSizing.ofValue : Value → Decoded LayoutSizing :=
  choice [("FIXED", .fixed), ("HUG", .hug), ("FILL", .fill)] none

def TextAlign.ofValue : Value → Decoded TextAlign :=
  choice [("LEFT", .left), ("CENTER", .center), ("RIGHT", .right), ("JUSTIFIED", .justified)] none

/-! ### Mixed attributes -/

/-- A value that `read` takes, or the marker `mixed` in any letter case, or nothing. -/
def Mixed.ofValue {α : Type} (read : Value → Decoded α) (v : Value) : Decoded (Mixed α) :=
  match read v, v with
  | .ok a, _ => .ok (.uniform a)
  | .error _, .null => .ok .mixed
  | .error _, .string s =>
    if s.toList.map Char.toLower = "mixed".toList then .ok .mixed else .error (.noMarker s)
  | .error _, _ => .error (.noAlternative "Repr")

/-- An attribute that is mixed where it is absent. -/
def mixedField {α : Type} (key : String) (read : Value → Decoded α) : Fields Value (Mixed α) :=
  .optional key (Mixed.ofValue read) .mixed

/-- A number that may be absent. -/
def optionalDouble (key : String) : Fields Value (Option Float) :=
  .optional key (Value.orNull Value.double) none

/-! ### Groups of attributes -/

def Layer.fields : Fields Value Layer :=
  Layer.mk <$> .required "id" Value.text <*> .required "name" Value.text
    <*> .optional "visible" Value.flag true
    <*> .required "x" Value.double <*> .required "y" Value.double
    <*> .required "width" Value.double <*> .required "height" Value.double
    <*> .optional "rotation" Value.double 0 <*> .optional "opacity" Value.double 1
    <*> .optional "fills" (Paint.listOfValue .nameOrIndex) []
    <*> .optional "strokes" (Paint.listOfValue .nameOrIndex) []
    <*> .optional "effects" (Value.listOf Effect.ofValue) []

def StrokeWeights.fields : Fields Value StrokeWeights :=
  StrokeWeights.mk <$> mixedField "strokeWeight" Value.double
    <*> optionalDouble "strokeTopWeight" <*> optionalDouble "strokeRightWeight"
    <*> optionalDouble "strokeBottomWeight" <*> optionalDouble "strokeLeftWeight"

def CornerRadii.fields : Fields Value CornerRadii :=
  CornerRadii.mk <$> mixedField "cornerRadius" Value.double
    <*> optionalDouble "topLeftRadius" <*> optionalDouble "topRightRadius"
    <*> optionalDouble "bottomRightRadius" <*> optionalDouble "bottomLeftRadius"

def AutoLayout.fields : Fields Value AutoLayout :=
  AutoLayout.mk <$> .optional "layoutMode" LayoutMode.ofValue .none
    <*> .optional "layoutWrap" LayoutWrap.ofValue .noWrap
    <*> .optional "primaryAxisAlignItems" AxisAlign.ofValue .center
    <*> .optional "counterAxisAlignItems" AxisAlign.ofValue .center
    <*> .optional "primaryAxisSizingMode" AxisSizing.ofValue .auto
    <*> .optional "counterAxisSizingMode" AxisSizing.ofValue .auto
    <*> .optional "layoutSizingHorizontal" LayoutSizing.ofValue .hug
    <*> .optional "layoutSizingVertical" LayoutSizing.ofValue .hug
    <*> .optional "paddingTop" Value.double 0 <*> .optional "paddingRight" Value.double 0
    <*> .optional "paddingBottom" Value.double 0 <*> .optional "paddingLeft" Value.double 0
    <*> .optional "itemSpacing" Value.double 0
    <*> optionalDouble "counterAxisSpacing"
    <*> optionalDouble "minWidth" <*> optionalDouble "maxWidth"
    <*> optionalDouble "minHeight" <*> optionalDouble "maxHeight"

def Outline.ofMembers (ms : List (String × Value)) : Decoded Outline := do
  return ⟨← StrokeWeights.fields.ofMembers ms, ← CornerRadii.fields.ofMembers ms⟩

/-- Whether content is clipped is looked at before the groups. -/
def Box.ofMembers (ms : List (String × Value)) : Decoded Box := do
  let clips ← (Fields.optional "clipsContent" Value.flag false).ofMembers ms
  let outline ← Outline.ofMembers ms
  let layout ← AutoLayout.fields.ofMembers ms
  return ⟨outline, clips, layout⟩

/-! ### Text -/

/-- A number with a unit. -/
def measure : Fields Value Float :=
  .required "value" Value.double

def LineHeight.ofValue (v : Value) : Decoded LineHeight := do
  let (tag, body) ← untag .nameOrIndex "unit" "LineHeight" v
  match ← tag.known [("AUTO", 0), ("PERCENT", 1), ("PIXELS", 2)] with
  | 0 =>
    body.ignore
    return .auto
  | 1 => return .percent (← measure.read "variant LineHeight::Percent" body.value)
  | _ => return .pixels (← measure.read "variant LineHeight::Pixels" body.value)

def LetterSpacing.ofValue (v : Value) : Decoded LetterSpacing := do
  let (tag, body) ← untag .nameOrIndex "unit" "LetterSpacing" v
  match ← tag.known [("PERCENT", 1), ("PIXELS", 2)] with
  | 1 => return .percent (← measure.read "variant LetterSpacing::Percent" body.value)
  | _ => return .pixels (← measure.read "variant LetterSpacing::Pixels" body.value)

def TextSegment.fields : Fields Value TextSegment :=
  TextSegment.mk <$> .required "start" Value.count <*> .required "end" Value.count
    <*> optionalDouble "fontSize" <*> optionalDouble "fontWeight"
    <*> .optional "lineHeight" (Value.orNull LineHeight.ofValue) none
    <*> .optional "letterSpacing" (Value.orNull LetterSpacing.ofValue) none

def TextContent.fields : Fields Value TextContent :=
  TextContent.mk <$> .optional "characters" Value.text ""
    <*> mixedField "fontSize" Value.double <*> mixedField "fontWeight" Value.double
    <*> mixedField "lineHeight" LineHeight.ofValue
    <*> mixedField "letterSpacing" LetterSpacing.ofValue
    <*> .optional "textAlignHorizontal" TextAlign.ofValue .left
    <*> .optional "styledSegments" (Value.listOf (TextSegment.fields.read "TextSegment")) []

/-! ### Properties of instances -/

def PropertyValue.ofValue : Value → Decoded PropertyValue
  | .boolean b => .ok (.boolean b)
  | .number n => .ok (.number n.toDouble)
  | .string s => .ok (.text s)
  | _ => .error (.noAlternative "PropertyValue")

/-- A property is a record around its value. -/
def propertyFields : Fields Value PropertyValue :=
  .required "value" PropertyValue.ofValue

/-- Of a repeated key the last value counts, at the place of the first. -/
def Properties.ofValue : Value → Decoded Properties
  | .object ms => do
    let entries ← ms.mapM fun m => do
      return (m.1, ← propertyFields.read "ComponentProperty" m.2)
    return lastValues entries
  | v => v.mistyped .map

/-! ### Nodes -/

inductive NodeKind where
  | frame (role : FrameRole)
  | inst
  | group
  | text
  | shape (form : ShapeForm)
  | unsupported

/-- The kinds of nodes by their tags.  Every other tag is that of an unsupported kind. -/
def nodeKinds : List (String × NodeKind) :=
  [("FRAME", .frame .frame), ("COMPONENT", .frame .component),
    ("COMPONENT_SET", .frame .componentSet), ("INSTANCE", .inst), ("GROUP", .group),
    ("TEXT", .text), ("RECTANGLE", .shape .rectangle), ("ELLIPSE", .shape .ellipse),
    ("LINE", .shape .line), ("UNSUPPORTED", .unsupported)]

/-- What a message calls the record of a node. -/
def NodeKind.record : NodeKind → String
  | frame _ => "FrameNode"
  | inst => "InstanceNode"
  | group => "GroupNode"
  | text => "TextNode"
  | shape _ => "ShapeNode"
  | unsupported => ""

/-- A member of a node: its value, and the nodes that the value lists, if it is a list of nodes. -/
abbrev NodeMember := Value × Decoded (List Node)

/-- A member that lists nodes. -/
def nodesField (key : String) : Fields NodeMember (List Node) :=
  .optional key (·.2) []

/-- Reads a node of a known kind from its members. -/
def Node.ofMembers (ms : List (String × NodeMember)) : NodeKind → Decoded Node
  | .frame role => do
    let children ← (nodesField "children").ofMembers ms
    let layer ← Layer.fields.ofMembers values
    return .frame role layer (← Box.ofMembers values) children
  | .inst => do
    let own : Fields NodeMember (Properties × List Node × List Node) :=
      (fun ps cs es => (ps, cs, es)) <$> .optional "componentProperties" (Properties.ofValue ·.1) []
        <*> nodesField "children" <*> nodesField "exposedInstances"
    let (properties, children, exposed) ← own.ofMembers ms
    let layer ← Layer.fields.ofMembers values
    return .inst layer (← Box.ofMembers values) properties children exposed
  | .group => do
    let children ← (nodesField "children").ofMembers ms
    return .group (← Layer.fields.ofMembers values) children
  | .text => do
    let content ← TextContent.fields.ofMembers values
    return .text (← Layer.fields.ofMembers values) content
  | .shape form => do
    let layer ← Layer.fields.ofMembers values
    return .shape form layer (← Outline.ofMembers values)
  | .unsupported => return .unsupported
where
  values := ms.map fun m => (m.1, m.2.1)

/-- Reads a node from what it holds besides its tag.  Only objects hold nodes of a known kind. -/
def Node.ofBody (tag : Tag) (body : Body NodeMember) : Decoded Node :=
  match (tag.find? nodeKinds).getD .unsupported, body with
  | .unsupported, body => do
    body.ignore
    return .unsupported
  | kind, .members ms => Node.ofMembers ms kind
  | kind, .items _ => .error (.wrongType .sequence (.record kind.record))

mutual

/-- Reads a node. -/
def Node.read (form : TagForm) : Value → Decoded Node
  | .object ms => do
    let (tag, body) ← untagMembers form "type" (·.1) (readMembers ms)
    Node.ofBody tag body
  | .array vs => do
    let (tag, body) ← untagItems form "type" vs
    Node.ofBody tag body
  | v => v.mistyped (.tagged "SceneNode")

/-- Reads nodes. -/
def readNodes : List Value → Decoded (List Node)
  | [] => .ok []
  | v :: vs => do
    let n ← Node.read .nameOrIndex v
    let ns ← readNodes vs
    return n :: ns

/-- The nodes that a value lists. -/
def readListed : Value → Decoded (List Node)
  | .array vs => readNodes vs
  | v => v.mistyped .sequence

/-- Members with the nodes that they list. -/
def readMembers : List (String × Value) → List (String × NodeMember)
  | [] => []
  | (key, v) :: ms => (key, v, readListed v) :: readMembers ms

end

/-- The scene that a value describes. -/
def Node.ofValue (v : Value) : Decoded Node :=
  Node.read .nameOnly v

/-! ### Scenes in texts -/

/-- Reads the members of the outermost node in the order of the text, `tagged` if its tag has been
met before them.  The tag is looked at as soon as it is met. -/
def outermostMembers (tagged : Bool) :
    List (Except Fault String × Draft) → Decoded (List (String × Value))
  | [] => .ok []
  | (key, d) :: ms => do
    let key ← Draft.lift key
    if key = "type" then
      if tagged then throw (.duplicateField "type")
      let v ← d.head
      let _ ← TagForm.nameOnly.read v
      return (key, v) :: (← outermostMembers true ms)
    else
      let v ← Draft.lift (d.value (Draft.maxDepth - 1))
      return (key, v) :: (← outermostMembers tagged ms)

/-- Reads the outermost node, with its tag first where it is an array. -/
def outermost : Draft → Decoded Value
  | .object ms stop => do
    let ms ← outermostMembers false ms
    Draft.lift (Draft.proceed stop)
    return .object ms
  | .array [] stop => do
    Draft.lift (Draft.proceed stop)
    return .array []
  | .array (d :: ds) stop => do
    let v ← d.head
    let _ ← TagForm.nameOnly.read v
    let vs ← Draft.lift (Draft.values (Draft.maxDepth - 1) ds)
    Draft.lift (Draft.proceed stop)
    return .array (v :: vs)
  | d => d.head

/-- The scene that a text describes. -/
def Node.ofText (text : String) : Decoded Node :=
  Draft.decode (fun d => do Node.ofValue (← outermost d)) text

end Handoff

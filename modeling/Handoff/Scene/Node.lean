import Handoff.Scene.Paint

/-!
# Scenes

A scene is a tree of nodes drawn in a design tool.  Every node of a known kind has a `Layer`: its
name, its box and its paints.  Frames, components and instances of components have a `Box` besides,
which may lay out their children; instances have properties too.
-/

namespace Handoff

/-! ### What nodes are made of -/

/-- What every node of a known kind has. -/
structure Layer where
  id : String
  name : String
  visible : Bool
  x : Float
  y : Float
  width : Float
  height : Float
  rotation : Float
  opacity : Float
  fills : List Paint
  strokes : List Paint
  effects : List Effect

/-- A value that may differ between the parts it describes. -/
inductive Mixed (α : Type) where
  | uniform (value : α)
  | mixed

/-- The uniform value, or else `fallback`. -/
def Mixed.getD {α : Type} (m : Mixed α) (fallback : α) : α :=
  match m with
  | uniform a => a
  | mixed => fallback

/-- The uniform value, or else what is found elsewhere. -/
def Mixed.or {α : Type} (m : Mixed α) (elsewhere : Option α) : Option α :=
  match m with
  | uniform a => some a
  | mixed => elsewhere

/-- Stroke weights: a uniform one, and those of single edges. -/
structure StrokeWeights where
  weight : Mixed Float
  topWeight : Option Float
  rightWeight : Option Float
  bottomWeight : Option Float
  leftWeight : Option Float

namespace StrokeWeights

/-- The weight of edges without one of their own, and zero if it is mixed. -/
def uniform (w : StrokeWeights) : Float :=
  w.weight.getD 0

def top (w : StrokeWeights) : Float :=
  w.topWeight.getD w.uniform

def right (w : StrokeWeights) : Float :=
  w.rightWeight.getD w.uniform

def bottom (w : StrokeWeights) : Float :=
  w.bottomWeight.getD w.uniform

def left (w : StrokeWeights) : Float :=
  w.leftWeight.getD w.uniform

end StrokeWeights

/-- Corner radii: a uniform one, and those of single corners. -/
structure CornerRadii where
  radius : Mixed Float
  topLeft : Option Float
  topRight : Option Float
  bottomRight : Option Float
  bottomLeft : Option Float

/-- The four radii from the top left one on. -/
def CornerRadii.clockwise (c : CornerRadii) : List Float :=
  [c.topLeft, c.topRight, c.bottomRight, c.bottomLeft].map (·.getD (c.radius.getD 0))

structure Outline where
  weights : StrokeWeights
  corners : CornerRadii

/-! ### Automatic layout -/

inductive LayoutMode where
  | horizontal
  | vertical
  | none
  deriving DecidableEq

inductive LayoutWrap where
  | noWrap
  | wrap

inductive AxisAlign where
  | min
  | center
  | max
  | spaceBetween
  | baseline

inductive AxisSizing where
  | fixed
  | auto

/-- How a node sizes itself inside a parent that lays it out. -/
inductive LayoutSizing where
  | fixed
  | hug
  | fill

structure AutoLayout where
  mode : LayoutMode
  wrap : LayoutWrap
  primaryAlign : AxisAlign
  counterAlign : AxisAlign
  primarySizing : AxisSizing
  counterSizing : AxisSizing
  horizontalSizing : LayoutSizing
  verticalSizing : LayoutSizing
  paddingTop : Float
  paddingRight : Float
  paddingBottom : Float
  paddingLeft : Float
  itemSpacing : Float
  counterSpacing : Option Float
  minWidth : Option Float
  maxWidth : Option Float
  minHeight : Option Float
  maxHeight : Option Float

/-- Whether children are laid out at all. -/
def AutoLayout.isEnabled (l : AutoLayout) : Bool :=
  l.mode ≠ .none

/-- What frames, components and instances have besides a layer. -/
structure Box where
  outline : Outline
  clipsContent : Bool
  layout : AutoLayout

/-! ### Text -/

inductive LineHeight where
  | auto
  | percent (value : Float)
  | pixels (value : Float)

inductive LetterSpacing where
  | percent (value : Float)
  | pixels (value : Float)

inductive TextAlign where
  | left
  | center
  | right
  | justified

/-- The characters from `first` up to but not including `last` have one style. -/
structure TextSegment where
  first : Nat
  last : Nat
  fontSize : Option Float
  fontWeight : Option Float
  lineHeight : Option LineHeight
  letterSpacing : Option LetterSpacing

structure TextContent where
  characters : String
  fontSize : Mixed Float
  fontWeight : Mixed Float
  lineHeight : Mixed LineHeight
  letterSpacing : Mixed LetterSpacing
  align : TextAlign
  segments : List TextSegment

/-- The segment that holds the first character. -/
def TextContent.firstChar (t : TextContent) : Option TextSegment :=
  t.segments.find? fun s => s.first == 0 && 0 < s.last

/-! ### Properties of instances -/

/-- The value of a property.  Properties that choose a variant are texts, also where the variants
are called `true` and `false`. -/
inductive PropertyValue where
  | boolean (value : Bool)
  | number (value : Float)
  | text (value : String)

/-- Properties by their keys, in the order of the design tool. -/
abbrev Properties := List (String × PropertyValue)

/-! ### Nodes -/

inductive FrameRole where
  | frame
  | component
  | componentSet
  deriving DecidableEq

inductive ShapeForm where
  | rectangle
  | ellipse
  | line

inductive Node where
  | frame (role : FrameRole) (layer : Layer) (box : Box) (children : List Node)
  | inst (layer : Layer) (box : Box) (properties : Properties) (children exposed : List Node)
  | group (layer : Layer) (children : List Node)
  | text (layer : Layer) (content : TextContent)
  | shape (form : ShapeForm) (layer : Layer) (outline : Outline)
  | unsupported

namespace Node

def layer? : Node → Option Layer
  | frame _ l _ _ => some l
  | inst l _ _ _ _ => some l
  | group l _ => some l
  | text l _ => some l
  | shape _ l _ => some l
  | unsupported => none

def children : Node → List Node
  | frame _ _ _ cs => cs
  | inst _ _ _ cs _ => cs
  | group _ cs => cs
  | text _ _ | shape _ _ _ | unsupported => []

/-- Only a layer can be hidden. -/
def isVisible (n : Node) : Bool :=
  n.layer?.all (·.visible)

/-- The properties of an instance called `name`. -/
def propertiesOf? (name : String) : Node → Option Properties
  | inst l _ ps _ _ => if l.name = name then some ps else none
  | _ => none

end Node

end Handoff

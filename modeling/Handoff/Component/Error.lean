import Handoff.Decimal.Form
import Handoff.Options
import Handoff.Scene.Node

/-!
# What cannot be generated

Only two things are refused: a base font size that no length can be divided by, and geometry that no
box can have.
-/

namespace Handoff

/-- Numbers in messages: all digits, and never an exponent. -/
def plainForm : Decimal.Form where
  positional _ := true
  keepsPoint := false
  plusExponent := false
  signedZero := true
  tie := .up
  infinity := "inf"

/-- The geometry of a layer that is at fault. -/
inductive GeometryFault where
  | notFinite (field : String)
  | negativeSize (width height : Float)

namespace GeometryFault

def message : GeometryFault → String
  | notFinite field => field ++ " is not a finite number"
  | negativeSize w h => "negative size " ++ plainForm.write w ++ "x" ++ plainForm.write h

end GeometryFault

namespace Layer

/-- The numbers that place a layer, by name. -/
def geometry (l : Layer) : List (String × Float) :=
  [("x", l.x), ("y", l.y), ("width", l.width), ("height", l.height), ("rotation", l.rotation),
    ("opacity", l.opacity)]

/-- What is wrong with the geometry of a layer: a number that is not finite, or a negative size. -/
def geometryFault? (l : Layer) : Option GeometryFault :=
  match l.geometry.find? fun f => !f.2.isFinite with
  | some (name, _) => some (.notFinite name)
  | none => if l.width < 0 || l.height < 0 then some (.negativeSize l.width l.height) else none

end Layer

inductive GenerationError where
  | invalidGeometry (id name : String) (fault : GeometryFault)
  | invalidBaseFontSize (value : Float)

namespace GenerationError

def message : GenerationError → String
  | invalidGeometry id name fault =>
    "Invalid geometry on node '" ++ name ++ "' (" ++ id ++ "): " ++ fault.message
  | invalidBaseFontSize x =>
    "Invalid base font size " ++ plainForm.write x ++ ": must be a positive number of pixels"

end GenerationError

/-- Fails where the geometry of a layer is at fault. -/
def Layer.checkGeometry (l : Layer) : Except GenerationError Unit :=
  match l.geometryFault? with
  | some fault => .error (.invalidGeometry l.id l.name fault)
  | none => .ok ()

/-- Fails where lengths cannot be divided by the base font size. -/
def Options.check (o : Options) : Except GenerationError Unit :=
  if o.hasUsableBase then .ok () else .error (.invalidBaseFontSize o.baseFontSize)

end Handoff

/-!
# Colours, paints and effects

What a layer is filled, outlined and shaded with.  Channels run from 0 to 1.  Of the paints only
solid ones are told apart, of the effects only drop shadows.
-/

namespace Handoff

structure Rgb where
  r : Float
  g : Float
  b : Float

structure Rgba where
  r : Float
  g : Float
  b : Float
  a : Float

/-- The colour with opacity `a`. -/
def Rgb.withAlpha (c : Rgb) (a : Float) : Rgba :=
  ⟨c.r, c.g, c.b, a⟩

structure SolidPaint where
  color : Rgb
  visible : Bool
  opacity : Float
  /-- The id of the design token that the colour is bound to. -/
  token : Option String

inductive Paint where
  | solid (paint : SolidPaint)
  | other

/-- The first solid paint that is not hidden. -/
def firstVisibleSolid (paints : List Paint) : Option SolidPaint :=
  paints.findSome? fun
    | .solid p => if p.visible then some p else none
    | .other => none

structure Point where
  x : Float
  y : Float

structure Shadow where
  color : Rgba
  offset : Point
  radius : Float
  spread : Float

inductive Effect where
  | dropShadow (shadow : Shadow)
  | other

/-- The drop shadows among `effects`. -/
def dropShadows (effects : List Effect) : List Shadow :=
  effects.filterMap fun
    | .dropShadow s => some s
    | .other => none

end Handoff

import Handoff.Component.Setting
import Handoff.Markup.Element

/-!
# Texts

A text is a paragraph.  Where its style differs between characters, the style of the first one
counts for all.
-/

namespace Handoff

/-- The weight of text that says nothing about it. -/
def defaultFontWeight : Float := 400

/-- A line height in units of the font size. -/
def LineHeight.css (h : Option LineHeight) (fontSize : Float) : String :=
  match h with
  | some (.percent x) => Style.number (x / 100)
  | some (.pixels x) => if 0 < fontSize then Style.number (x / fontSize) else "normal"
  | some .auto => "normal"
  | none => "normal"

/-- A letter spacing in units of the font size. -/
def LetterSpacing.css (h : Option LetterSpacing) (fontSize : Float) : String :=
  let ratio := match h with
    | some (.percent x) => x / 100
    | some (.pixels x) => if 0 < fontSize then x / fontSize else 0
    | none => 0
  if ratio == 0 then "0" else Style.number ratio ++ "em"

def TextAlign.css : TextAlign → String
  | left => "left"
  | center => "center"
  | right => "right"
  | justified => "justify"

/-- The style of a text. -/
def TextContent.typography (s : Setting) (t : TextContent) : List (String × String) :=
  let fontSize := (t.fontSize.or (t.firstChar.bind (·.fontSize))).getD s.options.baseFontSize
  let fontWeight := (t.fontWeight.or (t.firstChar.bind (·.fontWeight))).getD defaultFontWeight
  let lineHeight := t.lineHeight.or (t.firstChar.bind (·.lineHeight))
  let letterSpacing := t.letterSpacing.or (t.firstChar.bind (·.letterSpacing))
  [("font-size", s.rem fontSize), ("font-weight", Style.number fontWeight),
    ("text-align", t.align.css), ("line-height", LineHeight.css lineHeight fontSize),
    ("letter-spacing", LetterSpacing.css letterSpacing fontSize)]

def textPiece (s : Setting) (grouped : Bool) (l : Layer) (t : TextContent) : Piece where
  statements := []
  markup :=
    (Markup.Tag.mk "p" [.text "class" l.cls]).around (Markup.escapeText t.characters)
  rules :=
    ⟨l.selector, t.typography s ++ ("color", s.color l.fills) :: l.place s ++ l.appearance⟩
      :: l.inGroup s grouped

end Handoff

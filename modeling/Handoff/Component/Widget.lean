import Handoff.Clock
import Handoff.Component.Container

/-!
# Widgets

Instances of the components of the design system become widgets of a library.  What a widget shows
is read from the properties of the instance; a widget with state declares variables for it.
-/

namespace Handoff
open Markup (Attribute Tag)
open Script (Expr Literal Statement)

/-- The widgets that instances can become. -/
inductive Widget where
  | button
  | checkbox
  | radio
  | switch
  | textInput
  | numberInput
  | dateInput
  | timeInput
  | dateTimeInput
  | select
  | formLabel
  | formHelpMessage
  | textarea
  | tabs
  | avatar
  | spinner
  | chip

namespace Widget

/-- The widgets by the names of their instances. -/
def names : List (String × Widget) :=
  [("Button", button), ("Checkbox", checkbox), ("Radio", radio), ("Switch", switch),
    ("Text Input", textInput), ("Number Input", numberInput), ("Date Input", dateInput),
    ("Time Input", timeInput), ("DateTime Input", dateTimeInput), ("Select", select),
    ("Form Label", formLabel), ("Form Help Message", formHelpMessage), ("Textarea", textarea),
    ("Tabs", tabs), ("Avatar", avatar), ("Spinner", spinner), ("Chip", chip)]

/-- The name of the widget in the library. -/
def exportName : Widget → String
  | button => "Button"
  | checkbox => "Checkbox"
  | radio => "Radio"
  | switch => "Switch"
  | textInput => "TextInput"
  | numberInput => "NumberInput"
  | dateInput => "DateInput"
  | timeInput => "TimeInput"
  | dateTimeInput => "DateTimeInput"
  | select => "Select"
  | formLabel => "FormLabel"
  | formHelpMessage => "FormHelpMsg"
  | textarea => "Textarea"
  | tabs => "Tabs"
  | avatar => "Avatar"
  | spinner => "Spinner"
  | chip => "Chip"

end Widget

/-- An instance that is to become a widget. -/
structure WidgetInstance where
  layer : Layer
  properties : Properties
  children : List Node
  exposed : List Node

namespace WidgetInstance

/-! ### What instances say -/

/-- The label, if it is shown. -/
def shownLabel (i : WidgetInstance) : String :=
  if i.properties.flag "showLabel" then i.properties.text "label" else ""

/-- The number that a text is, when it is finite, and `null` otherwise. -/
def numberExpr (text : String) : Expr :=
  match Decimal.double? (Text.trim text.toList) with
  | some x => if x.isFinite then .number x else .null
  | none => .null

/-- A text under one of the conversions of dates and times. -/
def converted (convert : List Char → List Char) (text : String) : String :=
  String.ofList (convert text.toList)

/-- The labels of the exposed chips, which are the options of a selection. -/
def options (i : WidgetInstance) : List String :=
  (i.exposed.filterMap (·.propertiesOf? "Chip")).map (·.text "label")

/-- The options that are selected at first: all, or only the first. -/
def selected (i : WidgetInstance) : List String :=
  if i.properties.flag "multiselect" then i.options else i.options.take 1

/-- One tab. -/
def tab (ps : Properties) : String :=
  (Tag.mk "TabItem"
    (.text "title" (ps.text "name") :: Attribute.flagIf "open" (ps.flag "active"))).around ""

/-- The visible tabs. -/
def tabItems (i : WidgetInstance) : String :=
  let items := (i.children.filter (·.isVisible)).filterMap (·.propertiesOf? "_TabItem")
  String.join (items.map tab)

/-! ### What widgets are given -/

/-- A property as an expression that is true or false. -/
def flagAttribute (i : WidgetInstance) (name : String) : Attribute :=
  .expr name (.boolean (i.properties.flag name))

/-- A property as a text. -/
def textAttribute (i : WidgetInstance) (name : String) : Attribute :=
  .text name (i.properties.text name)

/-- What all inputs can be. -/
def inputFlags (i : WidgetInstance) : List Attribute :=
  [i.flagAttribute "disabled", i.flagAttribute "invalid"]

/-- The value of an input for dates or times. -/
def dateAttribute (i : WidgetInstance) (convert : List Char → List Char) : Attribute :=
  .text "value" (converted convert (i.properties.text "value"))

/-- The name of one of the variables of a widget. -/
def stateVariable (i : WidgetInstance) (kind role : String) : String :=
  stateName kind i.layer.id ++ role

/-- The variable that keeps whether a widget is checked. -/
def checkedVariable (i : WidgetInstance) (kind : String) : Statement :=
  .declare (i.stateVariable kind "Checked") (.boolean (i.properties.flag "checked"))

/-- The variables that a widget declares. -/
def declarations (i : WidgetInstance) : Widget → List Statement
  | .checkbox => [i.checkedVariable "checkbox"]
  | .switch => [i.checkedVariable "switch"]
  | .select =>
    [.declare (i.stateVariable "select" "Options") (.texts i.options),
      .declare (i.stateVariable "select" "Selected") (.texts i.selected)]
  | _ => []

/-- The attributes of a widget. -/
def attributes (i : WidgetInstance) : Widget → List Attribute
  | .button => [i.flagAttribute "disabled", i.textAttribute "variant"]
  | .checkbox =>
    [.expr "bind:checked" (.name (i.stateVariable "checkbox" "Checked")),
      i.flagAttribute "disabled"]
  | .radio => [i.flagAttribute "disabled", .text "value" (slug i.shownLabel)]
  | .switch =>
    [.expr "bind:checked" (.name (i.stateVariable "switch" "Checked")), i.textAttribute "size",
      i.flagAttribute "disabled"]
  | .textInput => i.inputFlags ++ [i.textAttribute "value"]
  | .numberInput => i.inputFlags ++ [.expr "value" (numberExpr (i.properties.text "value"))]
  | .dateInput => i.inputFlags ++ [i.dateAttribute Clock.isoDate]
  | .timeInput => i.inputFlags ++ [i.dateAttribute Clock.isoTime]
  | .dateTimeInput => i.inputFlags ++ [i.dateAttribute Clock.isoDateTime]
  | .select =>
    i.inputFlags
      ++ [.expr "maxSelect" (if i.properties.flag "multiselect" then .null else .number 1),
        .expr "options" (.name (i.stateVariable "select" "Options")),
        .expr "bind:selected" (.name (i.stateVariable "select" "Selected"))]
  | .formLabel => [i.flagAttribute "required", i.flagAttribute "disabled"]
  | .formHelpMessage => [i.flagAttribute "invalid", i.flagAttribute "disabled"]
  | .textarea =>
    [.text "resize" "vertical", i.flagAttribute "disabled", i.textAttribute "value"]
  | .tabs => Attribute.flagIf "background" (i.properties.flag "background")
  | .avatar => [i.textAttribute "size", .text "name" (i.properties.text "initial")]
  | .spinner =>
    i.textAttribute "size" :: Attribute.flagIf "onbrand" (i.properties.flag "onbrand")
  | .chip =>
    i.flagAttribute "disabled"
      :: Attribute.flagIf "dismissible" (i.properties.flag "dismissible")

/-- What stands inside of a widget. -/
def content (i : WidgetInstance) : Widget → String
  | .button => Markup.escapeText (i.properties.text "label")
  | .checkbox => Markup.escapeText i.shownLabel
  | .radio => Markup.escapeText i.shownLabel
  | .formLabel => Markup.escapeText (i.properties.text "label")
  | .formHelpMessage => Markup.escapeText (i.properties.text "message")
  | .tabs => i.tabItems
  | .chip => Markup.escapeText (i.properties.text "label")
  | _ => ""

/-- The names that a widget needs from the library. -/
def imports : Widget → List String
  | .tabs => ["Tabs", "TabItem"]
  | w => [w.exportName]

/-- An instance as a widget, if there is one of its name. -/
def piece (s : Setting) (i : WidgetInstance) : Piece :=
  match Widget.names.lookup i.layer.name with
  | none => .empty
  | some w =>
    ⟨s.importWidgets (imports w) :: i.declarations w,
      (Tag.mk w.exportName (i.attributes w)).around (i.content w), []⟩

end WidgetInstance

end Handoff

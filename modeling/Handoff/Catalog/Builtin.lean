import Handoff.Catalog

/-!
# The built-in catalogs

The design system that is assumed where a caller brings no catalogs along.
-/

namespace Handoff

/-- The colour tokens of the built-in design system. -/
def TokenCatalog.builtin : TokenCatalog where
  entries := [
    ("VariableID:61:36", "--db-color-bg-brand"),
    ("VariableID:61:37", "--db-color-bg-brand-hover"),
    ("VariableID:61:38", "--db-color-bg-brand-pressed"), ("VariableID:61:40", "--db-color-bg"),
    ("VariableID:61:41", "--db-color-bg-secondary"),
    ("VariableID:61:42", "--db-color-bg-tertiary"),
    ("VariableID:61:43", "--db-color-bg-disabled"),
    ("VariableID:310:337", "--db-color-bg-success"),
    ("VariableID:310:338", "--db-color-bg-warning"),
    ("VariableID:310:339", "--db-color-bg-danger"), ("VariableID:310:300", "--db-color-border"),
    ("VariableID:310:301", "--db-color-border-strong"),
    ("VariableID:310:302", "--db-color-border-disabled"),
    ("VariableID:310:307", "--db-color-border-brand"),
    ("VariableID:310:310", "--db-color-border-success"),
    ("VariableID:310:314", "--db-color-border-warning"),
    ("VariableID:310:318", "--db-color-border-danger"),
    ("VariableID:310:349", "--db-color-bg-inverse"), ("VariableID:320:10", "--db-color-text"),
    ("VariableID:320:11", "--db-color-text-secondary"),
    ("VariableID:320:12", "--db-color-text-tertiary"),
    ("VariableID:320:13", "--db-color-text-disabled"),
    ("VariableID:320:14", "--db-color-text-brand"),
    ("VariableID:320:15", "--db-color-text-onbrand"),
    ("VariableID:320:16", "--db-color-text-danger"), ("VariableID:330:1", "--db-color-icon"),
    ("VariableID:330:2", "--db-color-icon-secondary"),
    ("VariableID:330:3", "--db-color-icon-brand"),
    ("VariableID:330:4", "--db-color-icon-onbrand"),
    ("VariableID:330:5", "--db-color-icon-danger")]

/-- The widgets and icons of the built-in design system. -/
def ComponentCatalog.builtin : ComponentCatalog where
  components := [
    "Button", "Checkbox", "Radio", "Switch", "Text Input", "Number Input", "Date Input",
    "Time Input", "DateTime Input", "Select", "Form Label", "Form Help Message", "Textarea",
    "Tabs", "Avatar", "Spinner", "Chip"]
  icons := [
    "Add", "ArrowDown", "ArrowLeft", "ArrowRight", "ArrowUp", "Calendar", "Check", "ChevronDown",
    "ChevronLeft", "ChevronRight", "ChevronUp", "Clock", "Close", "Copy", "Delete", "Download",
    "Edit", "Error", "Eye", "EyeOff", "Filter", "Heart", "Home", "Info", "Link", "Lock", "Menu",
    "Minus", "More", "Plus", "Refresh", "Search", "Settings", "Star", "Success", "Upload", "User",
    "Warning"]

def Catalogs.builtin : Catalogs :=
  ⟨.builtin, .builtin⟩

end Handoff

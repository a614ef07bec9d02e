import EditableProfile.View
import EditableProfile.Wire.Action

set_option autoImplicit false

namespace EditableProfile

open Json

def Control.members (control : Control) : List (String × Value) :=
  [("field", .string control.field.name), ("input_type", .string control.kind.name),
    ("value", .string control.value),
    ("placeholder", control.hint.elim .null Value.string)]

def Control.toValue (control : Control) : Value := .object control.members

def Portrait.toValue (portrait : Portrait) : Value :=
  .object [("src", .string portrait.source), ("alt", .string portrait.caption),
    ("input", portrait.input.elim .null Control.toValue)]

def Content.toValue : Content → Value
  | .text value => .object [("kind", .string "text"), ("value", .string value)]
  | .input control => .object (("kind", .string "input") :: control.members)

def Row.toValue (row : Row) : Value :=
  .object [("field", .string row.field.name), ("label", .string row.label),
    ("content", row.content.toValue)]

def Button.toValue (button : Button) : Value :=
  .object [("label", .string button.label), ("action", button.action.toValue)]

def View.toValue (view : View) : Value :=
  .object [("heading", .string view.heading), ("mode", .string view.mode.name),
    ("avatar", view.portrait.toValue), ("fields", .array (view.rows.map Row.toValue)),
    ("actions", .array (view.buttons.map Button.toValue))]

def View.json (view : View) : String := view.toValue.text

end EditableProfile

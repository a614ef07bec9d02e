import EditableProfile.View
import EditableProfile.Config
import EditableProfile.Markup

set_option autoImplicit false

namespace EditableProfile

open Markup

def Control.node (control : Control) : Node :=
  .void ⟨"input",
    [("type", control.kind.name), ("value", control.value), ("placeholder", control.hint.getD "")],
    some (.typing control.field)⟩

def Portrait.node (portrait : Portrait) : Node :=
  let image : Node :=
    .void ⟨"img", [("class", "avatar"), ("src", portrait.source), ("alt", portrait.caption)], none⟩
  .element ⟨"div", [("class", "avatar-container")], none⟩
    (image :: portrait.input.toList.map Control.node)

def Content.node : Content → Node
  | .text value => .element ⟨"span", [], none⟩ [.text value]
  | .input control => control.node

def Row.node (row : Row) : Node :=
  .element ⟨"div", [("class", "info-item")], none⟩
    [.element ⟨"label", [], none⟩ [.text row.label], row.content.node]

def Button.node (button : Button) : Node :=
  .element ⟨"button", [("type", "button")], some (.click button.action)⟩ [.text button.label]

def View.card (view : View) : Node :=
  .element ⟨"div", [("class", "user-profile")], none⟩
    [.element ⟨"h2", [], none⟩ [.text view.heading],
      view.portrait.node,
      .element ⟨"div", [("class", "info-container")], none⟩ (view.rows.map Row.node),
      .element ⟨"div", [("class", "actions")], none⟩ (view.buttons.map Button.node)]

def Layout.frame (layout : Layout) (card : Node) : Node :=
  .element ⟨"div", [("style", layout.style)], none⟩ [card]

end EditableProfile

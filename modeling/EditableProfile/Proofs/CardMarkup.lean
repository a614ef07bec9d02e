import EditableProfile.Card

set_option autoImplicit false

namespace EditableProfile

open Markup Markup.Node

def Control.tag (control : Control) : Tag :=
  ⟨"input",
    [("type", control.kind.name), ("value", control.value), ("placeholder", control.hint.getD "")],
    some (.typing control.field)⟩

def Button.tag (button : Button) : Tag :=
  ⟨"button", [("type", "button")], some (.click button.action)⟩

@[simp] theorem named_text (name content : String) : (Node.text content).named name = [] := rfl

@[simp] theorem named_void (name : String) (tag : Tag) :
    (Node.void tag).named name = if tag.name = name then [(tag, "")] else [] := rfl

@[simp] theorem named_element (name : String) (tag : Tag) (children : List Node) :
    (Node.element tag children).named name =
      if tag.name = name then (tag, contentAll children) :: namedAll name children
      else namedAll name children := rfl

@[simp] theorem named_all_nil (name : String) : namedAll name [] = [] := rfl

@[simp] theorem named_all_cons (name : String) (node : Node) (rest : List Node) :
    namedAll name (node :: rest) = node.named name ++ namedAll name rest := rfl

-- Of nodes that have one such element each, or none, the list has those in their order.
theorem named_all_picked {α β : Type} (name : String) (node : α → Node) (pick : α → Option β)
    (hit : β → Tag × String) (each : ∀ item, (node item).named name = (pick item).toList.map hit)
    (items : List α) : namedAll name (items.map node) = (items.filterMap pick).map hit := by
  induction items with
  | nil => rfl
  | cons item rest hypothesis =>
      rw [List.map_cons, named_all_cons, hypothesis, each, List.filterMap_cons]
      cases pick item <;> rfl

def Control.hit (control : Control) : Tag × String := (control.tag, "")

def Button.hit (button : Button) : Tag × String := (button.tag, button.label)

theorem named_all_none {α : Type} (name : String) (node : α → Node)
    (each : ∀ item, (node item).named name = []) (items : List α) :
    namedAll name (items.map node) = [] := by
  rw [named_all_picked name node (fun _ => none) Control.hit each items,
    List.filterMap_eq_nil_iff.mpr fun _ _ => rfl, List.map_nil]

theorem Control.named_input (control : Control) : control.node.named "input" = [control.hit] := rfl

theorem Control.named_button (control : Control) : control.node.named "button" = [] := rfl

theorem Content.named_input (content : Content) :
    content.node.named "input" = content.control?.toList.map Control.hit := by
  cases content with
  | text value => rfl
  | input control => exact control.named_input

theorem Content.named_button (content : Content) : content.node.named "button" = [] := by
  cases content with
  | text value => rfl
  | input control => exact control.named_button

theorem Row.named_input (row : Row) :
    row.node.named "input" = row.content.control?.toList.map Control.hit := by
  simp [node, row.content.named_input]

theorem Row.named_button (row : Row) : row.node.named "button" = [] := by
  simp [node, row.content.named_button]

theorem Portrait.named_input (portrait : Portrait) :
    portrait.node.named "input" = portrait.input.toList.map Control.hit := by
  cases input : portrait.input <;> simp [node, input, Control.named_input]

theorem Portrait.named_button (portrait : Portrait) : portrait.node.named "button" = [] := by
  cases input : portrait.input <;> simp [node, input, Control.named_button]

theorem Button.named_input (button : Button) : button.node.named "input" = [] := by
  simp [node]

theorem Button.named_button (button : Button) : button.node.named "button" = [button.hit] := by
  simp [node, contentAll, content, hit, tag]

namespace View

theorem card_inputs (view : View) :
    view.card.named "input" = view.inputs.map Control.hit := by
  have rows := named_all_picked "input" Row.node (fun row => row.content.control?) Control.hit
    Row.named_input view.rows
  have buttons := named_all_none "input" Button.node Button.named_input view.buttons
  simp [card, rows, buttons, inputs, view.portrait.named_input]

theorem card_buttons (view : View) :
    view.card.named "button" = view.buttons.map Button.hit := by
  have rows := named_all_none "button" Row.node Row.named_button view.rows
  have buttons := named_all_picked "button" Button.node some Button.hit Button.named_button
    view.buttons
  simp [card, rows, buttons, view.portrait.named_button]

end View

theorem Layout.frame_named (layout : Layout) (card : Node) (name : String) (inner : name ≠ "div") :
    (layout.frame card).named name = card.named name := by
  simp [frame, Ne.symm inner]

theorem Layout.escaped_style (layout : Layout) : escaped layout.style = layout.style.toList := by
  cases layout <;> decide +kernel

theorem Layout.frame_html (layout : Layout) (card : Node) : (layout.frame card).html =
    "<div style=\"" ++ layout.style ++ "\">" ++ card.html ++ "</div>" := by
  apply String.toList_injective
  simp [html, frame, write, writeAll, Tag.inner, attributeText, layout.escaped_style]

end EditableProfile

import EditableProfile.Editor

set_option autoImplicit false

namespace EditableProfile

namespace Caption

def heading : String := "User Profile"
def avatar : String := "User Avatar"
def avatarHint : String := "Avatar URL"
def edit : String := "Edit Profile"
def save : String := "Save"
def cancel : String := "Cancel"

end Caption

inductive InputKind where
  | text
  | email
  | url
deriving DecidableEq, Repr

namespace InputKind

def name : InputKind → String
  | .text => "text"
  | .email => "email"
  | .url => "url"

end InputKind

namespace Field

def inputKind : Field → InputKind
  | .username => .text
  | .email => .email
  | .avatar => .url

def label : Field → String
  | .username => "Username:"
  | .email => "Email:"
  | .avatar => "Avatar:"

def hint : Field → Option String
  | .avatar => some Caption.avatarHint
  | _ => none

end Field

structure Control where
  field : Field
  kind : InputKind
  value : String
  hint : Option String
deriving DecidableEq, Repr

namespace Control

def forField (field : Field) (value : String) : Control :=
  ⟨field, field.inputKind, value, field.hint⟩

def change (control : Control) (value : String) : Action := .change control.field value

end Control

structure Portrait where
  source : String
  caption : String
  input : Option Control
deriving DecidableEq, Repr

inductive Content where
  | text (value : String)
  | input (control : Control)
deriving DecidableEq, Repr

namespace Content

def control? : Content → Option Control
  | .input control => some control
  | .text _ => none

def text? : Content → Option String
  | .text value => some value
  | .input _ => none

end Content

structure Row where
  field : Field
  label : String
  content : Content
deriving DecidableEq, Repr

structure Button where
  label : String
  action : Action
deriving DecidableEq, Repr

structure View where
  heading : String
  mode : Mode
  portrait : Portrait
  rows : List Row
  buttons : List Button
deriving DecidableEq, Repr

namespace Editor

def portrait (editor : Editor) : Portrait where
  source := editor.buffer.avatar
  caption := Caption.avatar
  input :=
    match editor.mode with
    | .viewing => none
    | .editing => some (Control.forField .avatar editor.buffer.avatar)

def row (editor : Editor) (field : Field) : Row where
  field := field
  label := field.label
  content :=
    match editor.mode with
    | .viewing => .text (editor.buffer.get field)
    | .editing => .input (Control.forField field (editor.buffer.get field))

def buttons (editor : Editor) : List Button :=
  match editor.mode with
  | .viewing => [⟨Caption.edit, .beginEdit⟩]
  | .editing => [⟨Caption.save, .confirm⟩, ⟨Caption.cancel, .discard⟩]

def view (editor : Editor) : View where
  heading := Caption.heading
  mode := editor.mode
  portrait := editor.portrait
  rows := [editor.row .username, editor.row .email]
  buttons := editor.buttons

end Editor

namespace View

def inputs (view : View) : List Control :=
  view.portrait.input.toList ++ view.rows.filterMap fun row => row.content.control?

def input? (view : View) (field : Field) : Option Control :=
  view.inputs.find? fun control => control.field == field

-- A row shows text where it is not open for editing, and the avatar has no row.
def text? (view : View) (field : Field) : Option String :=
  (view.rows.find? fun row => row.field == field).bind fun row => row.content.text?

def button? (view : View) (label : String) : Option Button :=
  view.buttons.find? fun button => button.label == label

def labels (view : View) : List String := view.buttons.map Button.label

end View

end EditableProfile

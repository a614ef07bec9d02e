import EditableProfile.Record

set_option autoImplicit false

namespace EditableProfile

inductive Mode where
  | viewing
  | editing
deriving DecidableEq, Repr, Inhabited

def Mode.name : Mode → String
  | .viewing => "viewing"
  | .editing => "editing"

inductive Action where
  | beginEdit
  | change (field : Field) (value : String)
  | confirm
  | discard
deriving DecidableEq, Repr

inductive Transition where
  | started
  | changed (field : Field) (before after : String)
  | confirmed (record : Record)
  | discarded
  | ignored (mode : Mode)
deriving DecidableEq, Repr

namespace Transition

def isIgnored : Transition → Bool
  | .ignored _ => true
  | _ => false

def confirmed? : Transition → Option Record
  | .confirmed record => some record
  | _ => none

end Transition

-- Discarding always goes back to `opened`, the record the editor was opened on.
structure Editor where
  opened : Record
  buffer : Record
  mode : Mode
deriving DecidableEq, Repr

namespace Editor

def start (user : Record) : Editor := ⟨user, user, .viewing⟩

def isEditing (editor : Editor) : Bool := editor.mode == .editing

def isDirty (editor : Editor) : Bool := editor.buffer != editor.opened

def apply (editor : Editor) (action : Action) : Editor × Transition :=
  match editor.mode, action with
  | .viewing, .beginEdit => ({ editor with mode := .editing }, .started)
  | .editing, .change field value =>
      ({ editor with buffer := editor.buffer.set field value },
        .changed field (editor.buffer.get field) value)
  | .editing, .confirm => ({ editor with mode := .viewing }, .confirmed editor.buffer)
  | .editing, .discard => (start editor.opened, .discarded)
  | mode, _ => (editor, .ignored mode)

def run (editor : Editor) : List Action → Editor × List Transition
  | [] => (editor, [])
  | action :: rest =>
      let step := editor.apply action
      let tail := step.1.run rest
      (tail.1, step.2 :: tail.2)

theorem apply_opened (editor : Editor) (action : Action) :
    (editor.apply action).1.opened = editor.opened := by
  rcases editor with ⟨opened, buffer, mode⟩
  cases mode <;> cases action <;> rfl

theorem run_append (editor : Editor) (first second : List Action) :
    editor.run (first ++ second) =
      (((editor.run first).1.run second).1, (editor.run first).2 ++ ((editor.run first).1.run second).2) := by
  induction first generalizing editor with
  | nil => rfl
  | cons action rest hypothesis => simp [run, hypothesis]

end Editor

end EditableProfile

import EditableProfile.View
import EditableProfile.Host

/-!
An editor and the host behind it. Every action goes through `watched`, which moves the editor, makes
its entry in the log and only then hands a confirmed record to the host, once. A host that sees nothing
of the editor makes it `dispatch`.
-/

set_option autoImplicit false

namespace EditableProfile

-- An action as far as the editor is concerned; the host has its turn after this.
structure Move where
  editor : Editor
  transition : Transition
  logs : List Log.Entry
deriving DecidableEq, Repr

def Move.handed (move : Move) : Option Record := move.transition.confirmed?

def Editor.move (editor : Editor) (action : Action) : Move :=
  let step := editor.apply action
  let entry :=
    match step.2 with
    | .confirmed record => Log.forwarding record
    | .ignored mode => Log.unavailable action mode
    | .changed field _ _ => Log.fieldChanged field
    | .started => Log.modeChanged action step.1.mode
    | .discarded => Log.modeChanged action step.1.mode
  ⟨step.1, step.2, [entry]⟩

-- A dispatch is completed unless the host broke off.
structure Outcome where
  transition : Transition
  logs : List Log.Entry
  completed : Bool
deriving DecidableEq, Repr

structure Session (σ : Type) where
  editor : Editor
  host : σ
deriving DecidableEq, Repr

inductive Request where
  | click (label : String)
  | type (field : Field) (value : String)
deriving DecidableEq, Repr

def View.action? (view : View) : Request → Option Action
  | .click label => (view.button? label).map Button.action
  | .type field value => (view.input? field).map fun control => control.change value

namespace Session

variable {σ : Type}

def start (user : Record) (host : σ) : Session σ := ⟨Editor.start user, host⟩

def view (session : Session σ) : View := session.editor.view

-- The host may look at the editor, which has moved by the time it is called.
def watched (receive : Editor → Host σ) (session : Session σ) (action : Action) :
    Session σ × Outcome :=
  let move := session.editor.move action
  let moved : Session σ := { session with editor := move.editor }
  match move.handed with
  | none => (moved, ⟨move.transition, move.logs, true⟩)
  | some record =>
      let receipt := receive moved.editor moved.host record
      ({ moved with host := receipt.state },
        ⟨move.transition, move.logs ++ receipt.logs, receipt.completed⟩)

def watchedRun (receive : Editor → Host σ) (session : Session σ) :
    List Action → Session σ × List Outcome
  | [] => (session, [])
  | action :: rest =>
      let step := session.watched receive action
      let tail := step.1.watchedRun receive rest
      (tail.1, step.2 :: tail.2)

def dispatch (receive : Host σ) (session : Session σ) (action : Action) : Session σ × Outcome :=
  session.watched (fun _ => receive) action

def run (receive : Host σ) (session : Session σ) (actions : List Action) :
    Session σ × List Outcome :=
  session.watchedRun (fun _ => receive) actions

theorem run_nil (receive : Host σ) (session : Session σ) :
    session.run receive [] = (session, []) := rfl

theorem run_cons (receive : Host σ) (session : Session σ) (action : Action) (rest : List Action) :
    session.run receive (action :: rest) =
      (((session.dispatch receive action).1.run receive rest).1,
        (session.dispatch receive action).2 ::
          ((session.dispatch receive action).1.run receive rest).2) := rfl

def request (receive : Host σ) (session : Session σ) (wish : Request) :
    Session σ × Option Outcome :=
  match session.view.action? wish with
  | none => (session, none)
  | some action =>
      let step := session.dispatch receive action
      (step.1, some step.2)

def changeNamed (receive : Host σ) (session : Session σ) (name value : String) :
    Session σ × Except UnknownField Outcome :=
  match Field.parse name with
  | .error unknown => (session, .error unknown)
  | .ok field =>
      let step := session.dispatch receive (.change field value)
      (step.1, .ok step.2)

end Session

structure Desk (σ : Type) where
  editors : List Editor
  host : σ
deriving DecidableEq, Repr

namespace Desk

variable {σ : Type}

def start (users : List Record) (host : σ) : Desk σ := ⟨users.map Editor.start, host⟩

def session? (desk : Desk σ) (seat : Nat) : Option (Session σ) :=
  desk.editors[seat]?.map fun editor => ⟨editor, desk.host⟩

def put (desk : Desk σ) (seat : Nat) (session : Session σ) : Desk σ :=
  ⟨desk.editors.set seat session.editor, session.host⟩

-- A step of the session at a seat; at a seat without a session nothing happens.
def visit {α : Type} (desk : Desk σ) (seat : Nat) (step : Session σ → Session σ × α) :
    Desk σ × Option α :=
  match desk.session? seat with
  | none => (desk, none)
  | some session =>
      let result := step session
      (desk.put seat result.1, some result.2)

def dispatch (receive : Host σ) (desk : Desk σ) (seat : Nat) (action : Action) :
    Desk σ × Option Outcome :=
  desk.visit seat fun session => session.dispatch receive action

def run (receive : Host σ) (desk : Desk σ) : List (Nat × Action) → Desk σ × List (Option Outcome)
  | [] => (desk, [])
  | (seat, action) :: rest =>
      let step := desk.dispatch receive seat action
      let tail := step.1.run receive rest
      (tail.1, step.2 :: tail.2)

end Desk

end EditableProfile

import EditableProfile.Card
import EditableProfile.Session

set_option autoImplicit false

namespace EditableProfile

open Markup

-- A card that stands alone has no frame.
structure Screen (σ : Type) where
  frame : Option Layout
  session : Session σ
deriving DecidableEq, Repr

-- A click on the first button with the given text, or new text in the input at a place.
inductive Event where
  | click (label : String)
  | input (place : Nat) (value : String)
deriving DecidableEq, Repr

namespace Screen

variable {σ : Type}

def start (frame : Option Layout) (user : Record) (host : σ) : Screen σ :=
  ⟨frame, Session.start user host⟩

def markup (screen : Screen σ) : Node :=
  let card := screen.session.view.card
  screen.frame.elim card fun layout => layout.frame card

def html (screen : Screen σ) : String := screen.markup.html

def target? (screen : Screen σ) : Event → Option Tag
  | .click label =>
      ((screen.markup.named "button").find? fun hit => hit.2 == label).map Prod.fst
  | .input place _ => (screen.markup.named "input")[place]?.map Prod.fst

def action? (screen : Screen σ) (event : Event) : Option Action :=
  (screen.target? event).bind fun tag =>
    match tag.handler, event with
    | some (.click action), .click _ => some action
    | some (.typing field), .input _ value => some (.change field value)
    | _, _ => none

def fire (receive : Host σ) (screen : Screen σ) (event : Event) : Screen σ × Option Outcome :=
  match screen.action? event with
  | none => (screen, none)
  | some action =>
      let step := screen.session.dispatch receive action
      ({ screen with session := step.1 }, some step.2)

-- New props. The record was read when the screen was started, so that only the handler counts.
def rerender (assign : String → σ → σ) (_user : Record) (handler : String) (screen : Screen σ) :
    Screen σ :=
  { screen with session := { screen.session with host := assign handler screen.session.host } }

end Screen

end EditableProfile

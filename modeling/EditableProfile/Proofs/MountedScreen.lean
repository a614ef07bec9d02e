import EditableProfile.Config
import EditableProfile.Screen
import EditableProfile.Proofs.CardMarkup
import EditableProfile.Proofs.ViewDriving

set_option autoImplicit false

namespace EditableProfile

-- What an event on a control of a view stands for; inputs are told by their place, buttons by their
-- label.
def View.meant? (view : View) : Event → Option Action
  | .click label => (view.button? label).map Button.action
  | .input place value => view.inputs[place]?.map fun control => control.change value

namespace Screen

variable {σ : Type}

theorem markup_named (screen : Screen σ) (name : String) (inner : name ≠ "div") :
    screen.markup.named name = screen.session.view.card.named name := by
  cases frame : screen.frame with
  | none => simp [markup, frame]
  | some layout => simp [markup, frame, layout.frame_named _ name inner]

theorem markup_inputs (screen : Screen σ) :
    screen.markup.named "input" = screen.session.view.inputs.map Control.hit := by
  rw [markup_named screen "input" (by decide), View.card_inputs]

theorem markup_buttons (screen : Screen σ) :
    screen.markup.named "button" = screen.session.view.buttons.map Button.hit := by
  rw [markup_named screen "button" (by decide), View.card_buttons]

theorem action_meant (screen : Screen σ) (event : Event) :
    screen.action? event = screen.session.view.meant? event := by
  cases event with
  | click label =>
      have target : screen.target? (.click label) =
          (screen.session.view.button? label).map Button.tag := by
        simp [target?, markup_buttons, List.find?_map, View.button?, Function.comp_def, Button.hit]
      rw [action?, target, View.meant?]
      cases screen.session.view.button? label <;> rfl
  | input place value =>
      have target : screen.target? (.input place value) =
          screen.session.view.inputs[place]?.map Control.tag := by
        simp [target?, markup_inputs, Function.comp_def, Control.hit]
      rw [action?, target, View.meant?]
      cases screen.session.view.inputs[place]? <;> rfl

theorem fire_heed (receive : Host σ) (screen : Screen σ) (event : Event) :
    screen.fire receive event =
      ({ screen with session := (screen.session.heed View.meant? receive event).1 },
        (screen.session.heed View.meant? receive event).2) := by
  rw [fire, action_meant, Session.heed]
  cases screen.session.view.meant? event <;> rfl

def mount (config : Config) (host : σ) : Screen σ := start (some config.layout) config.user host

def play (receive : Host σ) : Screen σ → List Event → Screen σ × List (Option Outcome) :=
  serve fun screen event => screen.fire receive event

theorem play_heed (receive : Host σ) (screen : Screen σ) (events : List Event) :
    screen.play receive events =
      ({ screen with session := (serve (Session.heed View.meant? receive) screen.session events).1 },
        (serve (Session.heed View.meant? receive) screen.session events).2) := by
  induction events generalizing screen with
  | nil => rfl
  | cons event rest hypothesis =>
      have later := hypothesis (screen.fire receive event).1
      rw [play] at later ⊢
      rw [serve, later, fire_heed]
      rfl

theorem play_session (receive : Host σ) (screen : Screen σ) (events : List Event) :
    let actions := screen.session.editor.understood View.meant? events
    (screen.play receive events).1 =
        { screen with session := (screen.session.run receive actions).1 } ∧
      (screen.play receive events).2.filterMap id = (screen.session.run receive actions).2 := by
  intro actions
  obtain ⟨reached, answers⟩ := Session.serve_heed View.meant? receive screen.session events
  rw [play_heed]
  exact ⟨by rw [reached], answers⟩

theorem fire_input (receive : Host σ) (screen : Screen σ) (place : Nat) (control : Control)
    (found : screen.session.view.inputs[place]? = some control) (value : String) :
    screen.fire receive (.input place value) =
      ({ screen with session := (screen.session.dispatch receive (control.change value)).1 },
        some (screen.session.dispatch receive (control.change value)).2) := by
  have meant : screen.session.view.meant? (.input place value) = some (control.change value) := by
    simp [View.meant?, found]
  rw [fire_heed, Session.heed_some View.meant? receive screen.session _ _ meant]

theorem fire_click (receive : Host σ) (screen : Screen σ) (place : Nat) (button : Button)
    (found : screen.session.view.buttons[place]? = some button) :
    screen.fire receive (.click button.label) =
      ({ screen with session := (screen.session.dispatch receive button.action).1 },
        some (screen.session.dispatch receive button.action).2) := by
  have hit : screen.session.view.button? button.label = some button :=
    (find_by_key Button.label _ (Editor.labels_nodup screen.session.editor) _ _).mpr
      ⟨List.mem_of_getElem? found, rfl⟩
  have meant : screen.session.view.meant? (.click button.label) = some button.action := by
    simp [View.meant?, hit]
  rw [fire_heed, Session.heed_some View.meant? receive screen.session _ _ meant]

theorem markup_same (left right : Screen σ) (frames : left.frame = right.frame)
    (editors : left.session.editor = right.session.editor) : left.markup = right.markup := by
  rw [markup, markup, Session.view, Session.view, frames, editors]

-- Rendered again, a screen goes on as it would have gone on, whoever receives the records by then.
theorem play_rerendered (receive : Host σ) (assign : String → σ → σ) (user : Record)
    (handler : String) (screen : Screen σ) (events : List Event) :
    let rerendered := screen.rerender assign user handler
    (rerendered.play receive events).1.markup = (screen.play receive events).1.markup ∧
      ((rerendered.play receive events).2.filterMap id).map Outcome.transition =
        ((screen.play receive events).2.filterMap id).map Outcome.transition := by
  intro rerendered
  have kept : rerendered.session.editor = screen.session.editor := rfl
  obtain ⟨reached, answers⟩ := play_session receive rerendered events
  obtain ⟨reachedPlain, answersPlain⟩ := play_session receive screen events
  rw [kept] at reached answers
  constructor
  · rw [reached, reachedPlain]
    apply markup_same
    · rfl
    · rw [Session.run_editor, Session.run_editor, kept]
  · rw [answers, answersPlain, Session.run_transitions, Session.run_transitions, kept]

theorem mounted_screen_refines_session (receive : Host σ) (config : Config) (host : σ)
    (events : List Event) :
    let played := fun count => (mount config host).play receive (events.take count)
    let actions := fun count => (Editor.start config.user).understood View.meant? (events.take count)
    let session := fun count => (Session.start config.user host).run receive (actions count)
    (∀ count,
      (played count).1.session = (session count).1 ∧
      (played count).2.filterMap id = (session count).2 ∧
      (played count).1.html = "<div style=\"" ++ config.layout.style ++ "\">" ++
        (session count).1.editor.view.card.html ++ "</div>") ∧
    (∀ count,
      let screen := (played count).1
      let view := (session count).1.editor.view
      screen.markup.named "input" = view.inputs.map Control.hit ∧
      screen.markup.named "button" = view.buttons.map Button.hit ∧
      (∀ (place : Nat) control, view.inputs[place]? = some control → ∀ value,
        screen.fire receive (.input place value) =
          ({ screen with session := ((session count).1.dispatch receive (control.change value)).1 },
            some ((session count).1.dispatch receive (control.change value)).2)) ∧
      (∀ (place : Nat) button, view.buttons[place]? = some button →
        screen.fire receive (.click button.label) =
          ({ screen with session := ((session count).1.dispatch receive button.action).1 },
            some ((session count).1.dispatch receive button.action).2))) ∧
    (∀ layout count,
      let other := (mount { config with layout := layout } host).play receive (events.take count)
      other.1.session = (played count).1.session ∧ other.2 = (played count).2 ∧
      other.1.html = "<div style=\"" ++ layout.style ++ "\">" ++
        (session count).1.editor.view.card.html ++ "</div>") := by
  intro played actions session
  have screens : ∀ layout count,
      ((mount { config with layout := layout } host).play receive (events.take count)).1 =
        ⟨some layout, (session count).1⟩ :=
    fun layout count => (play_session receive (mount { config with layout := layout } host) _).1
  have reached : ∀ count, (played count).1 = ⟨some config.layout, (session count).1⟩ :=
    screens config.layout
  have shown : ∀ layout count, (⟨some layout, (session count).1⟩ : Screen σ).html =
      "<div style=\"" ++ layout.style ++ "\">" ++ (session count).1.editor.view.card.html ++
        "</div>" :=
    fun layout count => layout.frame_html _
  refine ⟨?_, ?_, ?_⟩
  · intro count
    refine ⟨by rw [reached], ?_, by rw [reached, shown]⟩
    exact (play_session receive (mount config host) (events.take count)).2
  · intro count screen view
    have here : screen = ⟨some config.layout, (session count).1⟩ := reached count
    rw [here]
    refine ⟨markup_inputs _, markup_buttons _, ?_, ?_⟩
    · intro place control found value
      exact fire_input receive ⟨some config.layout, (session count).1⟩ place control found value
    · intro place button found
      exact fire_click receive ⟨some config.layout, (session count).1⟩ place button found
  · intro layout count other
    have there : other.1 = ⟨some layout, (session count).1⟩ := screens layout count
    have answers : other.2 = (played count).2 := by
      have mine := play_heed receive (mount config host) (events.take count)
      have theirs := play_heed receive (mount { config with layout := layout } host)
        (events.take count)
      exact (congrArg Prod.snd theirs).trans (congrArg Prod.snd mine).symm
    rw [there, reached, shown]
    exact ⟨rfl, answers, rfl⟩

-- The first event finds no input yet, and the text of the third would be markup if it were not escaped.
def tapping : List Event :=
  [.input 0 "early", .click Caption.edit, .input 2 "\"<b>", .click Caption.save]

theorem mounted_screen_refines_session_tapping :
    let screen := fun layout count => ((mount ⟨layout, Sample.alice⟩ ([] : List Record)).play
      Host.recorder (tapping.take count)).1
    let changing := Action.change .email "\"<b>"
    let session := fun actions => ((Session.start Sample.alice ([] : List Record)).run
      Host.recorder actions).1
    (screen .mobile 2).session = session [.beginEdit] ∧
      (session [.beginEdit]).view.inputs[2]? =
        some (Control.forField .email "alice@example.com") ∧
      ((screen .mobile 2).fire Host.recorder (.input 2 "\"<b>")).1.session =
        session [.beginEdit, changing] ∧
      (screen .mobile 4).session.host = [Sample.alice.set .email "\"<b>"] ∧
      (screen .desktop 4).session.host = (screen .mobile 4).session.host := by
  intro screen changing session
  obtain ⟨reached, wired, alike⟩ :=
    mounted_screen_refines_session Host.recorder ⟨.mobile, Sample.alice⟩ ([] : List Record) tapping
  let hits := fun count => (Editor.start Sample.alice).understood View.meant? (tapping.take count)
  have opened : hits 2 = [.beginEdit] := by decide
  have ended : hits 4 = [.beginEdit, changing, .confirm] := by decide
  have editing : (screen .mobile 2).session = session (hits 2) := (reached 2).1
  have saved : (screen .mobile 4).session = session (hits 4) := (reached 4).1
  have third : (session (hits 2)).view.inputs[2]? =
      some (Control.forField .email "alice@example.com") := by
    rw [opened]
    decide
  have fired : ((screen .mobile 2).fire Host.recorder (.input 2 "\"<b>")).1.session =
      ((session (hits 2)).dispatch Host.recorder changing).1 :=
    congrArg (fun step => step.1.session) ((wired 2).2.2.1 2 _ third "\"<b>")
  rw [opened] at editing third fired
  rw [ended] at saved
  refine ⟨editing, third, fired, ?_, congrArg Session.host (alike .desktop 4).1⟩
  rw [saved]
  decide

end Screen

end EditableProfile

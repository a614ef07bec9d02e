import EditableProfile.Editor
import EditableProfile.Proofs.Serving

set_option autoImplicit false

namespace EditableProfile

inductive Kind where
  | started
  | changed
  | confirmed
  | discarded
  | ignored
deriving DecidableEq, Repr

namespace Transition

def kind : Transition → Kind
  | .started => .started
  | .changed _ _ _ => .changed
  | .confirmed _ => .confirmed
  | .discarded => .discarded
  | .ignored _ => .ignored

end Transition

def Mode.accepts : Mode → Action → Bool
  | .viewing, .beginEdit => true
  | .viewing, _ => false
  | .editing, .beginEdit => false
  | .editing, _ => true

namespace Editor

inductive Step : Editor → Action → Editor → Transition → Prop where
  | started (opened buffer : Record) :
      Step ⟨opened, buffer, .viewing⟩ .beginEdit ⟨opened, buffer, .editing⟩ .started
  | changed (opened buffer : Record) (field : Field) (value : String) :
      Step ⟨opened, buffer, .editing⟩ (.change field value)
        ⟨opened, buffer.set field value, .editing⟩ (.changed field (buffer.get field) value)
  | confirmed (opened buffer : Record) :
      Step ⟨opened, buffer, .editing⟩ .confirm ⟨opened, buffer, .viewing⟩ (.confirmed buffer)
  | discarded (opened buffer : Record) :
      Step ⟨opened, buffer, .editing⟩ .discard (start opened) .discarded
  | ignored (editor : Editor) (action : Action) (refused : editor.mode.accepts action = false) :
      Step editor action editor (.ignored editor.mode)

theorem apply_step (editor : Editor) (action : Action) :
    Step editor action (editor.apply action).1 (editor.apply action).2 := by
  rcases editor with ⟨opened, buffer, mode⟩
  cases mode with
  | viewing =>
      cases action with
      | beginEdit => exact .started opened buffer
      | change field value => exact .ignored _ _ rfl
      | confirm => exact .ignored _ _ rfl
      | discard => exact .ignored _ _ rfl
  | editing =>
      cases action with
      | beginEdit => exact .ignored _ _ rfl
      | change field value => exact .changed opened buffer field value
      | confirm => exact .confirmed opened buffer
      | discard => exact .discarded opened buffer

theorem step_accepted (editor next : Editor) (action : Action) (transition : Transition)
    (step : Step editor action next transition) :
    transition.isIgnored = !editor.mode.accepts action := by
  cases step with
  | started opened buffer => rfl
  | changed opened buffer field value => rfl
  | confirmed opened buffer => rfl
  | discarded opened buffer => rfl
  | ignored editor action refused => rw [refused]; rfl

theorem step_confirmed (editor next : Editor) (action : Action) (record : Record)
    (step : Step editor action next (.confirmed record)) : record = editor.buffer := by
  cases step
  rfl

theorem step_confirmed_next (editor next : Editor) (action : Action) (record : Record)
    (step : Step editor action next (.confirmed record)) :
    next = ⟨editor.opened, record, .viewing⟩ := by
  cases step
  rfl

theorem apply_accepted (editor : Editor) (action : Action) :
    (editor.apply action).2.isIgnored = !editor.mode.accepts action :=
  step_accepted _ _ _ _ (apply_step editor action)

theorem apply_refused (editor : Editor) (action : Action)
    (refused : editor.mode.accepts action = false) :
    editor.apply action = (editor, .ignored editor.mode) := by
  rcases editor with ⟨opened, buffer, mode⟩
  cases mode with
  | viewing =>
      cases action with
      | beginEdit => cases refused
      | _ => rfl
  | editing =>
      cases action with
      | beginEdit => rfl
      | _ => cases refused

theorem run_transition_at (editor : Editor) (actions : List Action) (before after : List Transition)
    (transition : Transition) (split : (editor.run actions).2 = before ++ transition :: after) :
    ∃ first action rest, actions = first ++ action :: rest ∧ (editor.run first).2 = before ∧
      ((editor.run first).1.apply action).2 = transition := by
  induction before generalizing editor actions with
  | nil =>
      cases actions with
      | nil => simp [run] at split
      | cons action rest =>
          simp only [run, List.nil_append, List.cons.injEq] at split
          exact ⟨[], action, rest, rfl, rfl, split.1⟩
  | cons earlier before hypothesis =>
      cases actions with
      | nil => simp [run] at split
      | cons action rest =>
          simp only [run, List.cons_append, List.cons.injEq] at split
          obtain ⟨first, later, tail, actionsEq, beforeEq, answer⟩ := hypothesis _ _ split.2
          refine ⟨action :: first, later, tail, by rw [actionsEq]; rfl, ?_, answer⟩
          simp only [run, split.1, beforeEq]

theorem run_opened (editor : Editor) (actions : List Action) :
    (editor.run actions).1.opened = editor.opened := by
  induction actions generalizing editor with
  | nil => rfl
  | cons action rest hypothesis => exact (hypothesis _).trans (apply_opened editor action)

theorem run_serve (editor : Editor) (actions : List Action) :
    editor.run actions = serve apply editor actions := by
  induction actions generalizing editor with
  | nil => rfl
  | cons action rest hypothesis => simp only [run, serve, hypothesis]

theorem run_place (editor : Editor) (actions : List Action) (place : Nat) (action : Action)
    (asked : actions[place]? = some action) :
    (editor.run actions).2[place]? = some ((editor.run (actions.take place)).1.apply action).2 ∧
      (editor.run (actions.take (place + 1))).1 =
        ((editor.run (actions.take place)).1.apply action).1 := by
  simp only [run_serve]
  exact serve_place apply editor actions place action asked

end Editor

end EditableProfile

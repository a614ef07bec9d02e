import EditableProfile.Session
import EditableProfile.Proofs.EditorStep
import EditableProfile.Proofs.Delivery

set_option autoImplicit false

namespace EditableProfile.Session

variable {σ : Type}

theorem dispatch_session (receive : Host σ) (session : Session σ) (action : Action) :
    (session.dispatch receive action).1 =
      ⟨(session.editor.apply action).1,
        Host.deliver receive session.host (session.editor.apply action).2.confirmed?.toList⟩ := by
  cases handed : (session.editor.apply action).2.confirmed? <;>
    simp [dispatch, watched, Move.handed, Editor.move, Host.deliver, handed]

theorem dispatch_editor (receive : Host σ) (session : Session σ) (action : Action) :
    (session.dispatch receive action).1.editor = (session.editor.apply action).1 := by
  rw [dispatch_session]

theorem dispatch_transition (receive : Host σ) (session : Session σ) (action : Action) :
    (session.dispatch receive action).2.transition = (session.editor.apply action).2 := by
  cases handed : (session.editor.apply action).2.confirmed? <;>
    simp [dispatch, watched, Move.handed, Editor.move, handed]

theorem dispatch_ignored (receive : Host σ) (session : Session σ) (action : Action) :
    (session.dispatch receive action).2.transition.isIgnored =
      !session.editor.mode.accepts action := by
  rw [dispatch_transition, Editor.apply_accepted]

theorem dispatch_refused (receive : Host σ) (session : Session σ) (action : Action)
    (refused : session.editor.mode.accepts action = false) :
    (session.dispatch receive action).1 = session := by
  rw [dispatch_session, Editor.apply_refused _ action refused]
  rfl

theorem run_editor (receive : Host σ) (session : Session σ) (actions : List Action) :
    (session.run receive actions).1.editor = (session.editor.run actions).1 := by
  induction actions generalizing session with
  | nil => rfl
  | cons action rest hypothesis =>
      simp only [run_cons, Editor.run]
      rw [hypothesis, dispatch_editor]

theorem run_transitions (receive : Host σ) (session : Session σ) (actions : List Action) :
    (session.run receive actions).2.map Outcome.transition = (session.editor.run actions).2 := by
  induction actions generalizing session with
  | nil => rfl
  | cons action rest hypothesis =>
      simp only [run_cons, List.map_cons, Editor.run]
      rw [hypothesis, dispatch_editor, dispatch_transition]

end EditableProfile.Session

import EditableProfile.Proofs.EditorStep
import Mathlib.Data.List.DropRight

set_option autoImplicit false

namespace EditableProfile

namespace Transition

def written? (field : Field) : Transition → Option String
  | .changed target _ after => if target = field then some after else none
  | _ => none

end Transition

namespace History

def lastEffective? (history : List Transition) : Option Transition :=
  (history.filter fun transition => !transition.isIgnored).getLast?

def sinceDiscard (history : List Transition) : List Transition :=
  history.rtakeWhile fun transition => transition != .discarded

/-- The last thing that `read` finds, discards being the borders it does not look across. -/
def latest? {α : Type} (read : Transition → Option α) (history : List Transition) : Option α :=
  ((sinceDiscard history).filterMap read).getLast?

def value (user : Record) (history : List Transition) (field : Field) : String :=
  (latest? (Transition.written? field) history).getD (user.get field)

def saved (user : Record) (history : List Transition) : Record :=
  (latest? Transition.confirmed? history).getD user

def EndsOpen (history : List Transition) : Prop :=
  lastEffective? history = some .started ∨
    ∃ field before after, lastEffective? history = some (.changed field before after)

theorem last_effective_snoc (history : List Transition) (transition : Transition) :
    lastEffective? (history ++ [transition]) =
      if transition.isIgnored then lastEffective? history else some transition := by
  cases ignored : transition.isIgnored <;> simp [lastEffective?, ignored]

theorem latest_snoc {α : Type} (read : Transition → Option α) (history : List Transition)
    (transition : Transition) :
    latest? read (history ++ [transition]) =
      if transition = .discarded then none else (read transition).or (latest? read history) := by
  by_cases border : transition = .discarded
  · simp [latest?, sinceDiscard, border]
  · cases found : read transition <;> simp [latest?, sinceDiscard, border, found]

theorem value_snoc_changed (user : Record) (history : List Transition) (field other : Field)
    (before after : String) :
    value user (history ++ [.changed field before after]) other =
      if field = other then after else value user history other := by
  by_cases same : field = other <;> simp [value, latest_snoc, Transition.written?, same]

-- Only a change writes a text, and only a discard takes texts back.
theorem value_snoc_kept (user : Record) (history : List Transition) (transition : Transition)
    (field : Field) (silent : transition.written? field = none) (kept : transition ≠ .discarded) :
    value user (history ++ [transition]) field = value user history field := by
  simp [value, latest_snoc, silent, kept]

theorem value_snoc_discarded (user : Record) (history : List Transition) (field : Field) :
    value user (history ++ [.discarded]) field = user.get field := by
  simp [value, latest_snoc]

end History

open History

structure Follows (user : Record) (history : List Transition) (editor : Editor) : Prop where
  opened : editor.opened = user
  mode : editor.mode = .editing ↔ EndsOpen history
  buffer : ∀ field, editor.buffer.get field = value user history field
  settled : editor.mode = .viewing → editor.buffer = saved user history
  restored : lastEffective? history = some .discarded → editor = Editor.start user

theorem follows_start (user : Record) : Follows user [] (Editor.start user) where
  opened := rfl
  mode := by simp [Editor.start, EndsOpen, lastEffective?]
  buffer field := rfl
  settled _ := rfl
  restored _ := rfl

theorem follows_step (user : Record) (history : List Transition) (editor next : Editor)
    (action : Action) (transition : Transition) (follows : Follows user history editor)
    (step : Editor.Step editor action next transition) :
    Follows user (history ++ [transition]) next := by
  obtain ⟨openedEq, mode, buffer, settled, restored⟩ := follows
  cases step with
  | started opened old =>
      have last : lastEffective? (history ++ [.started]) = some .started :=
        last_effective_snoc history .started
      refine ⟨openedEq, ?_, fun field => ?_, by simp, ?_⟩
      · simp [EndsOpen, last]
      · rw [value_snoc_kept user history _ field rfl (by simp)]
        exact buffer field
      · simp [last]
  | changed opened old field text =>
      have last : lastEffective? (history ++ [.changed field (old.get field) text]) =
          some (.changed field (old.get field) text) :=
        last_effective_snoc history (.changed field (old.get field) text)
      refine ⟨openedEq, ?_, fun other => ?_, by simp, ?_⟩
      · simp [EndsOpen, last]
      · rw [value_snoc_changed]
        by_cases same : field = other
        · rw [if_pos same, ← same]
          exact Record.get_set_self old field text
        · rw [if_neg same, ← buffer other]
          exact Record.get_set_other old field other text (Ne.symm same)
      · simp [last]
  | confirmed opened old =>
      have last : lastEffective? (history ++ [.confirmed old]) = some (.confirmed old) :=
        last_effective_snoc history (.confirmed old)
      refine ⟨openedEq, ?_, fun field => ?_, fun _ => ?_, ?_⟩
      · simp [EndsOpen, last]
      · rw [value_snoc_kept user history _ field rfl (by simp)]
        exact buffer field
      · simp [saved, latest_snoc, Transition.confirmed?]
      · simp [last]
  | discarded opened old =>
      have last : lastEffective? (history ++ [.discarded]) = some .discarded :=
        last_effective_snoc history .discarded
      have same : opened = user := openedEq
      subst same
      refine ⟨rfl, ?_, fun field => ?_, fun _ => ?_, fun _ => rfl⟩
      · simp [Editor.start, EndsOpen, last]
      · rw [value_snoc_discarded]
        rfl
      · simp [Editor.start, saved, latest_snoc]
  | ignored _ _ refused =>
      have kept : lastEffective? (history ++ [.ignored editor.mode]) = lastEffective? history :=
        last_effective_snoc history (.ignored editor.mode)
      refine ⟨openedEq, ?_, fun field => ?_, fun viewing => ?_, ?_⟩
      · rw [EndsOpen, kept]
        exact mode
      · rw [value_snoc_kept user history _ field rfl (by simp)]
        exact buffer field
      · rw [settled viewing]
        simp [saved, latest_snoc, Transition.confirmed?]
      · rw [kept]
        exact restored

theorem follows_run (user : Record) (history : List Transition) (editor : Editor)
    (actions : List Action) (follows : Follows user history editor) :
    Follows user (history ++ (editor.run actions).2) (editor.run actions).1 := by
  induction actions generalizing history editor with
  | nil => simpa [Editor.run] using follows
  | cons action rest hypothesis =>
      have step := follows_step user history editor _ action _ follows (editor.apply_step action)
      simpa [Editor.run] using hypothesis _ _ step

theorem run_follows (user : Record) (actions : List Action) :
    Follows user ((Editor.start user).run actions).2 ((Editor.start user).run actions).1 :=
  follows_run user [] (Editor.start user) actions (follows_start user)

theorem confirmed_record_value (user : Record) (actions : List Action)
    (before after : List Transition) (record : Record)
    (split : ((Editor.start user).run actions).2 = before ++ .confirmed record :: after)
    (field : Field) : record.get field = value user before field := by
  obtain ⟨first, action, rest, _, reached, answer⟩ :=
    Editor.run_transition_at (Editor.start user) actions before after _ split
  have step := ((Editor.start user).run first).1.apply_step action
  rw [answer] at step
  rw [Editor.step_confirmed _ _ _ _ step, (run_follows user first).buffer field, reached]

theorem follows_dirty (user : Record) (history : List Transition) (editor : Editor)
    (follows : Follows user history editor) :
    editor.isDirty = true ↔ ∃ field, value user history field ≠ user.get field := by
  have clean : editor.buffer = user ↔ ∀ field, value user history field = user.get field := by
    constructor
    · intro same field
      rw [← follows.buffer field, same]
    · intro same
      apply Record.ext_get
      intro field
      rw [follows.buffer field, same field]
  simp only [Editor.isDirty, follows.opened, bne_iff_ne, ne_eq, clean, not_forall]

theorem follows_unique (user : Record) (history : List Transition) (left right : Editor)
    (followsLeft : Follows user history left) (followsRight : Follows user history right) :
    left = right := by
  have opened : left.opened = right.opened := followsLeft.opened.trans followsRight.opened.symm
  have buffer : left.buffer = right.buffer := by
    apply Record.ext_get
    intro field
    rw [followsLeft.buffer field, followsRight.buffer field]
  have editing : left.mode = .editing ↔ right.mode = .editing :=
    followsLeft.mode.trans followsRight.mode.symm
  have mode : left.mode = right.mode := by
    cases leftMode : left.mode <;> cases rightMode : right.mode <;> simp_all
  cases left
  cases right
  simp only [Editor.mk.injEq]
  exact ⟨opened, buffer, mode⟩

theorem run_determined_by_history (user : Record) (actions : List Action) :
    let history := ((Editor.start user).run actions).2
    let final := ((Editor.start user).run actions).1
    (∀ others, ((Editor.start user).run others).2 = history →
      ((Editor.start user).run others).1 = final) ∧
    final.opened = user ∧
    (final.mode = .editing ↔ EndsOpen history) ∧
    (∀ field, final.buffer.get field = value user history field) ∧
    (∀ before record after, history = before ++ .confirmed record :: after →
      ∀ field, record.get field = value user before field) ∧
    (final.mode = .viewing → final.buffer = saved user history) ∧
    (lastEffective? history = some .discarded → final = Editor.start user) ∧
    (final.isDirty = true ↔ ∃ field, value user history field ≠ user.get field) := by
  intro history final
  have follows := run_follows user actions
  refine ⟨?_, follows.opened, follows.mode, follows.buffer, ?_, follows.settled, follows.restored,
    follows_dirty user history final follows⟩
  · intro others same
    have followsOthers := run_follows user others
    rw [same] at followsOthers
    exact follows_unique user history _ final followsOthers follows
  · intro before record after split field
    exact confirmed_record_value user actions before after record split field

def savedThenDropped : List Action :=
  [.beginEdit, .change .email "a@b", .confirm, .beginEdit, .change .username "x", .discard]

theorem run_determined_by_history_saved_then_dropped :
    let history := fun count =>
      ((Editor.start Sample.alice).run (savedThenDropped.take count)).2
    let final := fun count => ((Editor.start Sample.alice).run (savedThenDropped.take count)).1
    let kept := Sample.alice.set .email "a@b"
    history 3 = [.started, .changed .email "alice@example.com" "a@b"] ++ [.confirmed kept] ∧
      (∀ field, kept.get field = value Sample.alice ((history 3).take 2) field) ∧
      (final 3).buffer = kept ∧ (final 3).isDirty = true ∧
      (final 5).mode = .editing ∧ (final 5).buffer.get .username = "x" ∧
      (final 5).buffer.get .email = "a@b" ∧
      final 6 = Editor.start Sample.alice := by
  intro history final kept
  have split : history 3 = [.started, .changed .email "alice@example.com" "a@b"] ++
      [.confirmed kept] := by decide
  obtain ⟨_, _, _, _, confirmed, settled, _, dirty⟩ :=
    run_determined_by_history Sample.alice (savedThenDropped.take 3)
  obtain ⟨_, _, mode, buffer, _⟩ :=
    run_determined_by_history Sample.alice (savedThenDropped.take 5)
  obtain ⟨_, _, _, _, _, _, restored, _⟩ :=
    run_determined_by_history Sample.alice (savedThenDropped.take 6)
  refine ⟨split, ?_, ?_, ?_, ?_, ?_, ?_, restored (by decide)⟩
  · intro field
    exact confirmed _ kept [] split field
  · exact (settled (by decide)).trans (by decide)
  · exact dirty.mpr ⟨.email, by decide⟩
  · exact mode.mpr (.inr ⟨.username, "alice", "x", by decide⟩)
  · exact (buffer .username).trans (by decide)
  · exact (buffer .email).trans (by decide)

end EditableProfile

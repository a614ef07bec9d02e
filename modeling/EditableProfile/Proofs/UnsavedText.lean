import EditableProfile.Inbox
import EditableProfile.Proofs.SessionStep

/-!
Text that is not saved does not leave the session. Two runs whose actions differ only in the texts of
changes that come to nothing cannot be told apart by the host, by the log or by the records confirmed.
-/

set_option autoImplicit false

namespace EditableProfile

namespace Action

def masked : Action → Action
  | .change field _ => .change field ""
  | action => action

theorem masked_different (first second : Action) (same : first.masked = second.masked)
    (different : first ≠ second) :
    ∃ field text other, first = .change field text ∧ second = .change field other := by
  cases first with
  | change field text =>
      cases second with
      | change otherField other =>
          obtain ⟨sameField, _⟩ := Action.change.inj same
          exact ⟨field, text, other, rfl, by rw [sameField]⟩
      | _ => cases same
  | _ => cases second <;> first | exact absurd rfl different | cases same

theorem masked_word (first second : Action) (same : first.masked = second.masked) :
    Log.actionWord first = Log.actionWord second := by
  by_cases equal : first = second
  · rw [equal]
  · obtain ⟨field, text, other, rfl, rfl⟩ := masked_different first second same equal
    rfl

end Action

namespace Transition

def masked : Transition → Transition
  | .changed field _ _ => .changed field "" ""
  | transition => transition

def closes : Transition → Bool
  | .confirmed _ => true
  | .discarded => true
  | _ => false

theorem masked_confirmed (transition : Transition) :
    transition.masked.confirmed? = transition.confirmed? := by
  cases transition <;> rfl

theorem masked_kind (transition : Transition) : transition.masked.kind = transition.kind := by
  cases transition <;> rfl

end Transition

namespace History

-- An edit that is open before these transitions is discarded or still open after them.
def Doomed (history : List Transition) : Prop :=
  history.find? Transition.closes = none ∨ history.find? Transition.closes = some .discarded

/-- The change at this place comes to nothing: it is ignored, or else the edit that it is part of is
never confirmed. -/
def Unsaved (history : List Transition) (place : Nat) : Prop :=
  history[place]?.map Transition.kind = some .ignored ∨ Doomed (history.drop (place + 1))

instance (history : List Transition) : Decidable (Doomed history) :=
  inferInstanceAs (Decidable (_ ∨ _))

instance (history : List Transition) (place : Nat) : Decidable (Unsaved history place) :=
  inferInstanceAs (Decidable (_ ∨ _))

theorem doomed_cons (transition : Transition) (rest : List Transition)
    (passing : transition.closes = false) : Doomed (transition :: rest) ↔ Doomed rest := by
  simp [Doomed, passing]

theorem not_doomed_confirmed (record : Record) (rest : List Transition) :
    ¬ Doomed (.confirmed record :: rest) := by
  simp [Doomed, Transition.closes]

end History

open History

/-- Two editors before what is left of the first one's history. Their buffers may differ, but only
while an edit is open that will not be confirmed. -/
structure Alike (left right : Editor) (history : List Transition) : Prop where
  opened : left.opened = right.opened
  mode : left.mode = right.mode
  buffer : left.buffer = right.buffer ∨ left.mode = .editing ∧ Doomed history

theorem alike_refl (editor : Editor) (history : List Transition) : Alike editor editor history :=
  ⟨rfl, rfl, .inl rfl⟩

theorem alike_step_same (left right : Editor) (action : Action) (rest : List Transition)
    (alike : Alike left right ((left.apply action).2 :: rest)) :
    Alike (left.apply action).1 (right.apply action).1 rest ∧
      (left.apply action).2.masked = (right.apply action).2.masked := by
  obtain ⟨opened, buffer, mode⟩ := left
  obtain ⟨_, other, _⟩ := right
  obtain ⟨rfl, rfl, buffers⟩ := alike
  rcases buffers with equal | ⟨editing, doomed⟩
  · have same : buffer = other := equal
    subst same
    exact ⟨alike_refl _ _, rfl⟩
  · have same : mode = .editing := editing
    subst same
    cases action with
    | beginEdit => exact ⟨⟨rfl, rfl, .inr ⟨rfl, (doomed_cons _ _ rfl).mp doomed⟩⟩, rfl⟩
    | change field text => exact ⟨⟨rfl, rfl, .inr ⟨rfl, (doomed_cons _ _ rfl).mp doomed⟩⟩, rfl⟩
    | confirm => exact absurd doomed (not_doomed_confirmed buffer rest)
    | discard => exact ⟨alike_refl _ _, rfl⟩

theorem alike_step (left right : Editor) (first second : Action) (rest : List Transition)
    (alike : Alike left right ((left.apply first).2 :: rest))
    (same : first.masked = second.masked)
    (unsaved : first ≠ second → (left.apply first).2.kind = .ignored ∨ Doomed rest) :
    Alike (left.apply first).1 (right.apply second).1 rest ∧
      (left.apply first).2.masked = (right.apply second).2.masked := by
  by_cases equal : first = second
  · subst equal
    exact alike_step_same left right first rest alike
  · have withheld := unsaved equal
    obtain ⟨field, text, other, rfl, rfl⟩ := Action.masked_different first second same equal
    obtain ⟨opened, buffer, mode⟩ := left
    obtain ⟨_, otherBuffer, _⟩ := right
    obtain ⟨rfl, rfl, buffers⟩ := alike
    cases mode with
    | viewing =>
        have settled : buffer = otherBuffer := by simpa using buffers
        subst settled
        exact ⟨alike_refl _ _, rfl⟩
    | editing =>
        have doomed : Doomed rest := withheld.resolve_left (by simp [Editor.apply, Transition.kind])
        exact ⟨⟨rfl, rfl, .inr ⟨rfl, doomed⟩⟩, rfl⟩

theorem move_logs_masked (left right : Editor) (first second : Action)
    (same : first.masked = second.masked)
    (answers : (left.apply first).2.masked = (right.apply second).2.masked)
    (modes : (left.apply first).1.mode = (right.apply second).1.mode) :
    (left.move first).logs = (right.move second).logs := by
  have words := Action.masked_word first second same
  simp only [Editor.move]
  generalize (left.apply first).2 = answer at answers
  generalize (right.apply second).2 = otherAnswer at answers
  cases answer <;> cases otherAnswer <;> cases answers <;>
    simp [Log.unavailable, Log.modeChanged, words, modes]

def Outcome.masked (outcome : Outcome) : Outcome :=
  { outcome with transition := outcome.transition.masked }

theorem masked_outcomes_read {α : Type} (one two : List Outcome)
    (same : one.map Outcome.masked = two.map Outcome.masked) (read : Outcome → α)
    (blind : ∀ outcome, read outcome.masked = read outcome) : one.map read = two.map read := by
  have equal := congrArg (List.map read) same
  simpa only [List.map_map, Function.comp_def, blind] using equal

namespace Session

variable {σ : Type}

theorem dispatch_alike (receive : Host σ) (left right : Session σ) (first second : Action)
    (host : left.host = right.host) (same : first.masked = second.masked)
    (answers : (left.editor.apply first).2.masked = (right.editor.apply second).2.masked)
    (modes : (left.editor.apply first).1.mode = (right.editor.apply second).1.mode) :
    (left.dispatch receive first).1.host = (right.dispatch receive second).1.host ∧
      (left.dispatch receive first).2.masked = (right.dispatch receive second).2.masked := by
  have logs := move_logs_masked left.editor right.editor first second same answers modes
  have handed : (left.editor.move first).handed = (right.editor.move second).handed := by
    change (left.editor.apply first).2.confirmed? = (right.editor.apply second).2.confirmed?
    rw [← Transition.masked_confirmed, answers, Transition.masked_confirmed]
  have transitions : (left.editor.move first).transition.masked =
      (right.editor.move second).transition.masked := answers
  unfold dispatch watched
  simp only [handed, logs, host]
  cases (right.editor.move second).handed with
  | none => exact ⟨rfl, by simp only [Outcome.masked, transitions]⟩
  | some record => exact ⟨rfl, by simp only [Outcome.masked, transitions]⟩

-- By induction on the first list. What is left of its history says, while the buffers differ, that
-- the edit will not be confirmed.
theorem run_alike (receive : Host σ) (left right : Session σ) (first second : List Action)
    (host : left.host = right.host)
    (alike : Alike left.editor right.editor (left.editor.run first).2)
    (same : first.map Action.masked = second.map Action.masked)
    (unsaved : ∀ place < first.length, first[place]? ≠ second[place]? →
      Unsaved (left.editor.run first).2 place) :
    (left.run receive first).1.host = (right.run receive second).1.host ∧
      (left.run receive first).2.map Outcome.masked =
        (right.run receive second).2.map Outcome.masked := by
  induction first generalizing left right second with
  | nil =>
      rw [List.map_eq_nil_iff.mp same.symm]
      exact ⟨host, rfl⟩
  | cons action rest hypothesis =>
      cases second with
      | nil => cases same
      | cons other others =>
          obtain ⟨sameHere, sameLater⟩ := List.cons.inj same
          have unsavedHere : action ≠ other →
              (left.editor.apply action).2.kind = .ignored ∨
                Doomed ((left.editor.apply action).1.run rest).2 := by
            intro different
            have here := unsaved 0 (Nat.succ_pos rest.length) (by simpa using different)
            simpa [Unsaved, Editor.run] using here
          obtain ⟨next, answers⟩ :=
            alike_step left.editor right.editor action other _ alike sameHere unsavedHere
          obtain ⟨hosts, outcomes⟩ :=
            dispatch_alike receive left right action other host sameHere answers next.mode
          have unsavedLater : ∀ place < rest.length, rest[place]? ≠ others[place]? →
              Unsaved ((left.editor.apply action).1.run rest).2 place := by
            intro place within different
            exact unsaved (place + 1) (Nat.succ_lt_succ within) different
          rw [← dispatch_editor receive left action] at next unsavedLater
          rw [← dispatch_editor receive right other] at next
          obtain ⟨finalHost, later⟩ := hypothesis _ _ others hosts next sameLater unsavedLater
          rw [run_cons, run_cons, List.map_cons, List.map_cons, outcomes, later]
          exact ⟨finalHost, rfl⟩

theorem unsaved_text_confined (screens : List String) (receive : Host σ) (user : Record) (host : σ)
    (first second : List Action) (same : first.map Action.masked = second.map Action.masked)
    (unsaved : ∀ place < first.length, first[place]? ≠ second[place]? →
      Unsaved ((Editor.start user).run first).2 place) :
    let one := (start user host).run (Host.layered screens receive) first
    let two := (start user host).run (Host.layered screens receive) second
    one.2.map Outcome.logs = two.2.map Outcome.logs ∧
    one.2.map Outcome.completed = two.2.map Outcome.completed ∧
    one.1.host = two.1.host ∧
    one.2.map (fun outcome => outcome.transition.confirmed?) =
      two.2.map (fun outcome => outcome.transition.confirmed?) ∧
    one.2.map (fun outcome => outcome.transition.kind) =
      two.2.map (fun outcome => outcome.transition.kind) := by
  intro one two
  obtain ⟨hosts, outcomes⟩ := run_alike (Host.layered screens receive) (start user host)
    (start user host) first second rfl (alike_refl _ _) same unsaved
  refine ⟨?_, ?_, hosts, ?_, ?_⟩
  · exact masked_outcomes_read _ _ outcomes Outcome.logs fun _ => rfl
  · exact masked_outcomes_read _ _ outcomes Outcome.completed fun _ => rfl
  · exact masked_outcomes_read _ _ outcomes _ fun outcome =>
      Transition.masked_confirmed outcome.transition
  · exact masked_outcomes_read _ _ outcomes _ fun outcome =>
      Transition.masked_kind outcome.transition

-- A text for a change while viewing, one for an edit that is discarded and one for an edit left open.
def confiding (ignored discarded pending : String) : List Action :=
  [.change .email ignored, .beginEdit, .change .username discarded, .discard, .beginEdit,
    .change .email "new", .confirm, .beginEdit, .change .avatar pending]

theorem unsaved_text_confined_ledger :
    let inbox := Inbox.ledger (Ledger.new (Clock.stopped Instant.epoch))
    let host := Host.layered ["settings", ""] Inbox.receive
    let one := (start Sample.alice inbox).run host (confiding "a" "b" "c")
    let two := (start Sample.alice inbox).run host (confiding "" "secret" "\"")
    (confiding "a" "b" "c").map Action.masked = (confiding "" "secret" "\"").map Action.masked ∧
      (∀ place < 9, (confiding "a" "b" "c")[place]? ≠ (confiding "" "secret" "\"")[place]? →
        Unsaved ((Editor.start Sample.alice).run (confiding "a" "b" "c")).2 place) ∧
      one.2.map Outcome.logs = two.2.map Outcome.logs ∧
      one.1.host.records = two.1.host.records ∧ two.1.host.records = [Sample.alice.set .email "new"] ∧
      one.1.editor ≠ two.1.editor := by
  have same : (confiding "a" "b" "c").map Action.masked =
      (confiding "" "secret" "\"").map Action.masked := by decide
  have unsaved : ∀ place < 9, (confiding "a" "b" "c")[place]? ≠ (confiding "" "secret" "\"")[place]? →
      Unsaved ((Editor.start Sample.alice).run (confiding "a" "b" "c")).2 place := by
    decide +kernel
  intro inbox host one two
  obtain ⟨logs, _, hosts, _⟩ := unsaved_text_confined ["settings", ""] Inbox.receive Sample.alice inbox
    (confiding "a" "b" "c") (confiding "" "secret" "\"") same unsaved
  have sameHost : one.1.host = two.1.host := hosts
  refine ⟨same, unsaved, logs, ?_, ?_, ?_⟩
  · rw [sameHost]
  · decide +kernel
  · decide +kernel

end Session

end EditableProfile

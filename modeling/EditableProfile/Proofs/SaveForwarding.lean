import EditableProfile.Proofs.SessionStep

set_option autoImplicit false

namespace EditableProfile

structure Handover where
  record : Record
  editor : Editor
deriving DecidableEq, Repr

namespace Editor

def handover? (editor : Editor) (action : Action) : Option Handover :=
  let step := editor.apply action
  step.2.confirmed?.map fun record => ⟨record, step.1⟩

def handovers (editor : Editor) : List Action → List Handover
  | [] => []
  | action :: rest => (editor.handover? action).toList ++ (editor.apply action).1.handovers rest

theorem handovers_append (editor : Editor) (first second : List Action) :
    editor.handovers (first ++ second) =
      editor.handovers first ++ (editor.run first).1.handovers second := by
  induction first generalizing editor with
  | nil => rfl
  | cons action rest hypothesis =>
      simp only [List.cons_append, handovers, hypothesis, List.append_assoc]
      rfl

theorem handovers_place (editor : Editor) (actions : List Action) (place : Nat) (action : Action)
    (asked : actions[place]? = some action) :
    editor.handovers (actions.take (place + 1)) = editor.handovers (actions.take place) ++
      ((editor.run (actions.take place)).1.handover? action).toList := by
  rw [List.take_add_one, asked, handovers_append]
  simp [handovers]

theorem handovers_records (editor : Editor) (actions : List Action) :
    (editor.handovers actions).map Handover.record =
      (editor.run actions).2.filterMap Transition.confirmed? := by
  induction actions generalizing editor with
  | nil => rfl
  | cons action rest hypothesis =>
      rw [handovers, run, List.map_append, hypothesis, List.filterMap_cons]
      cases found : (editor.apply action).2.confirmed? <;> simp [handover?, found]

theorem handover_confirmed (editor : Editor) (action : Action) (record : Record)
    (answer : (editor.apply action).2 = .confirmed record) :
    record = editor.buffer ∧ (editor.apply action).1 = ⟨editor.opened, record, .viewing⟩ ∧
      editor.handover? action = some ⟨record, ⟨editor.opened, record, .viewing⟩⟩ := by
  have step := editor.apply_step action
  rw [answer] at step
  have next := step_confirmed_next _ _ _ _ step
  refine ⟨step_confirmed _ _ _ _ step, next, ?_⟩
  simp [handover?, answer, next, Transition.confirmed?]

end Editor

namespace Session

variable {σ : Type}

-- The host itself, with a note of every call.
def noting (receive : Host σ) : Editor → Host (σ × List Handover) := fun editor state record =>
  (receive state.1 record).map fun next => (next, state.2 ++ [⟨record, editor⟩])

def noted (session : Session σ) (notes : List Handover) : Session (σ × List Handover) :=
  ⟨session.editor, (session.host, notes)⟩

theorem watched_noting (receive : Host σ) (session : Session σ) (notes : List Handover)
    (action : Action) : (session.noted notes).watched (noting receive) action =
      ((session.dispatch receive action).1.noted
        (notes ++ (session.editor.handover? action).toList), (session.dispatch receive action).2) := by
  cases handed : (session.editor.apply action).2.confirmed? <;>
    simp [dispatch, watched, noted, Move.handed, Editor.move, Editor.handover?, handed, noting,
      Receipt.map]

theorem watched_run_noting (receive : Host σ) (session : Session σ) (notes : List Handover)
    (actions : List Action) : (session.noted notes).watchedRun (noting receive) actions =
      ((session.run receive actions).1.noted (notes ++ session.editor.handovers actions),
        (session.run receive actions).2) := by
  induction actions generalizing session notes with
  | nil => simp [watchedRun, run_nil, Editor.handovers]
  | cons action rest hypothesis =>
      simp only [watchedRun, run_cons, watched_noting, hypothesis, dispatch_editor, Editor.handovers,
        List.append_assoc]

theorem confirmed_records_forwarded (receive : Host σ) (user : Record) (host : σ)
    (actions : List Action) :
    let bare := fun count => ((Editor.start user).run (actions.take count)).1
    let reached := fun count => (start user host).run receive (actions.take count)
    let observed := fun count =>
      ((start user host).noted []).watchedRun (noting receive) (actions.take count)
    let calls := fun count => (observed count).1.host.2
    (∀ count, observed count = ((reached count).1.noted (calls count), (reached count).2)) ∧
    (∀ count, (reached count).1.editor = bare count ∧
      (reached count).2.map Outcome.transition =
        ((Editor.start user).run (actions.take count)).2) ∧
    (∀ place action, actions[place]? = some action →
      (∀ record, ((bare place).apply action).2 = .confirmed record →
        record = (bare place).buffer ∧ bare (place + 1) = ⟨user, record, .viewing⟩ ∧
          calls (place + 1) = calls place ++ [⟨record, ⟨user, record, .viewing⟩⟩]) ∧
      (((bare place).apply action).2.confirmed? = none → calls (place + 1) = calls place)) ∧
    (∀ (τ : Type) (other : Host τ) (state : τ) (count : Nat),
      ((start user state).run other (actions.take count)).1.editor = (reached count).1.editor) ∧
    (calls actions.length).map Handover.record =
      ((Editor.start user).run actions).2.filterMap Transition.confirmed? := by
  intro bare reached observed calls
  have noted : ∀ count, observed count = ((reached count).1.noted
      ((Editor.start user).handovers (actions.take count)), (reached count).2) :=
    fun count => watched_run_noting receive (start user host) [] (actions.take count)
  have called : ∀ count, calls count = (Editor.start user).handovers (actions.take count) :=
    fun count => congrArg (fun result => result.1.host.2) (noted count)
  have editors : ∀ (τ : Type) (other : Host τ) (state : τ) (count : Nat),
      ((start user state).run other (actions.take count)).1.editor = bare count :=
    fun τ other state count => run_editor other (start user state) (actions.take count)
  refine ⟨?_, ?_, ?_, ?_, ?_⟩
  · intro count
    rw [called]
    exact noted count
  · intro count
    exact ⟨editors σ receive host count, run_transitions receive _ _⟩
  · intro place action asked
    have next := (Editor.run_place (Editor.start user) actions place action asked).2
    have added := Editor.handovers_place (Editor.start user) actions place action asked
    rw [← called, ← called] at added
    constructor
    · intro record answer
      obtain ⟨held, moved, handed⟩ := Editor.handover_confirmed (bare place) action record answer
      have opened : (bare place).opened = user := Editor.run_opened (Editor.start user) _
      rw [opened] at moved handed
      refine ⟨held, next.trans moved, ?_⟩
      rw [added, handed]
      rfl
    · intro silent
      rw [added, Editor.handover?, silent]
      exact List.append_nil _
  · intro τ other state count
    rw [editors τ other state count, editors σ receive host count]
  · rw [called, List.take_length]
    exact Editor.handovers_records (Editor.start user) actions

-- Both saves break off in the ledger, whose clock never has a reading.
def savedInVain : List Action :=
  [.beginEdit, .change .email "x", .confirm, .confirm, .beginEdit, .confirm]

theorem confirmed_records_forwarded_failing_ledger :
    let opening := start Sample.alice (Ledger.new (Clock.ofReadings []))
    let result := opening.run Ledger.save savedInVain
    let calls := ((opening.noted []).watchedRun (noting Ledger.save) savedInVain).1.host.2
    let changed := Sample.alice.set .email "x"
    result.2.map Outcome.completed = [true, true, false, true, true, false] ∧
      result.1.editor = ⟨Sample.alice, changed, .viewing⟩ ∧
      calls.map Handover.record = [changed, changed] ∧
      result.1.host.saves = [] := by
  intro opening result calls changed
  obtain ⟨_, reached, _, _, records⟩ := confirmed_records_forwarded Ledger.save Sample.alice
    (Ledger.new (Clock.ofReadings [])) savedInVain
  refine ⟨by decide +kernel, ?_, ?_, by decide +kernel⟩
  · exact (reached savedInVain.length).1.trans (by decide)
  · exact records.trans (by decide)

end Session

end EditableProfile

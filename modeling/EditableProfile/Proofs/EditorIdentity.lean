import EditableProfile.Proofs.EditorStep

set_option autoImplicit false

namespace EditableProfile.Editor

def opening : Mode → List Action
  | .viewing => [.beginEdit]
  | .editing => []

def showBuffer (mode : Mode) : List Action := opening mode ++ [.confirm]

-- Only what is in the buffer is ever confirmed, so the record that an editor was opened on has to
-- come back there first.
def showOpened (mode : Mode) : List Action := opening mode ++ [.discard, .beginEdit, .confirm]

def ToldApart (left right : Editor) : Prop :=
  ∃ actions : List Action, actions.length ≤ 4 ∧
    (∀ action ∈ actions, action = .beginEdit ∨ action = .confirm ∨ action = .discard) ∧
    (left.run actions).2 ≠ (right.run actions).2

theorem run_opening (editor : Editor) :
    (editor.run (opening editor.mode)).1 = ⟨editor.opened, editor.buffer, .editing⟩ := by
  obtain ⟨opened, buffer, mode⟩ := editor
  cases mode <;> rfl

theorem show_buffer_answer (editor : Editor) :
    (editor.run (showBuffer editor.mode)).2.getLast? = some (.confirmed editor.buffer) := by
  rw [showBuffer, run_append, run_opening]
  exact List.getLast?_concat

theorem show_opened_answer (editor : Editor) :
    (editor.run (showOpened editor.mode)).2.getLast? = some (.confirmed editor.opened) := by
  rw [showOpened, run_append, run_opening, List.getLast?_append]
  rfl

theorem begin_edit_tells_mode (editor : Editor) :
    (editor.apply .beginEdit).2 = .started ↔ editor.mode = .viewing := by
  obtain ⟨opened, buffer, mode⟩ := editor
  cases mode <;> simp [apply]

theorem told_apart_by_mode (left right : Editor) (different : left.mode ≠ right.mode) :
    ToldApart left right := by
  refine ⟨[.beginEdit], by decide, by simp, ?_⟩
  intro same
  have answers : (left.apply .beginEdit).2 = (right.apply .beginEdit).2 := (List.cons.inj same).1
  have modes : left.mode = .viewing ↔ right.mode = .viewing := by
    rw [← begin_edit_tells_mode, answers, begin_edit_tells_mode]
  cases leftMode : left.mode <;> cases rightMode : right.mode <;> simp_all

theorem told_apart_by_buffer (left right : Editor) (mode : left.mode = right.mode)
    (different : left.buffer ≠ right.buffer) : ToldApart left right := by
  refine ⟨showBuffer left.mode, by cases left.mode <;> decide, ?_, ?_⟩
  · cases left.mode <;> simp [showBuffer, opening]
  · intro same
    have shown := show_buffer_answer right
    rw [← mode, ← same, show_buffer_answer left] at shown
    exact different (Transition.confirmed.inj (Option.some.inj shown))

theorem told_apart_by_opened (left right : Editor) (mode : left.mode = right.mode)
    (different : left.opened ≠ right.opened) : ToldApart left right := by
  refine ⟨showOpened left.mode, by cases left.mode <;> decide, ?_, ?_⟩
  · cases left.mode <;> simp [showOpened, opening]
  · intro same
    have shown := show_opened_answer right
    rw [← mode, ← same, show_opened_answer left] at shown
    exact different (Transition.confirmed.inj (Option.some.inj shown))

theorem told_apart (left right : Editor) (different : left ≠ right) : ToldApart left right := by
  by_cases mode : left.mode = right.mode
  · by_cases buffer : left.buffer = right.buffer
    · apply told_apart_by_opened left right mode
      intro opened
      apply different
      cases left
      cases right
      simp only [mk.injEq]
      exact ⟨opened, buffer, mode⟩
    · exact told_apart_by_buffer left right mode buffer
  · exact told_apart_by_mode left right mode

theorem answers_alike (left right : Editor)
    (alike : ∀ actions, (left.run actions).2 = (right.run actions).2) : left = right := by
  by_cases same : left = right
  · exact same
  · obtain ⟨actions, _, _, answers⟩ := told_apart left right same
    exact absurd (alike actions) answers

theorem continues_iff (editor copy : Editor) (before : List Action) :
    copy = (editor.run before).1 ↔ ∀ actions,
      (editor.run (before ++ actions)).2 = (editor.run before).2 ++ (copy.run actions).2 := by
  constructor
  · intro same actions
    rw [run_append, same]
  · intro continues
    apply answers_alike
    intro actions
    have joined := continues actions
    rw [run_append] at joined
    exact (List.append_cancel_left joined).symm

theorem same_iff_answers_alike (left right : Editor) :
    (left = right ↔ ∀ actions, (left.run actions).2 = (right.run actions).2) ∧
    (left ≠ right → ToldApart left right) ∧
    (∀ before, right = (left.run before).1 ↔ ∀ actions,
      (left.run (before ++ actions)).2 = (left.run before).2 ++ (right.run actions).2) ∧
    (∀ mode, mode ≠ left.mode → ToldApart left { left with mode := mode }) ∧
    (∀ buffer, buffer ≠ left.buffer → ToldApart left { left with buffer := buffer }) ∧
    (∀ opened, opened ≠ left.opened → ToldApart left { left with opened := opened }) := by
  refine ⟨⟨?_, answers_alike left right⟩, told_apart left right, continues_iff left right, ?_, ?_, ?_⟩
  · intro same actions
    rw [same]
  · intro mode different
    exact told_apart_by_mode _ _ (Ne.symm different)
  · intro buffer different
    exact told_apart_by_buffer _ _ rfl (Ne.symm different)
  · intro opened different
    exact told_apart_by_opened _ _ rfl (Ne.symm different)

theorem same_iff_answers_alike_opened_hidden :
    let left := start Sample.alice
    let right : Editor := ⟨Sample.bob, Sample.alice, .viewing⟩
    left ≠ right ∧ ToldApart left right ∧
      ¬ ∀ actions, (left.run actions).2 = (right.run actions).2 := by
  intro left right
  have different : left ≠ right := by decide
  obtain ⟨same, apart, _⟩ := same_iff_answers_alike left right
  exact ⟨different, apart different, fun alike => different (same.mpr alike)⟩

end EditableProfile.Editor

import EditableProfile.Proofs.EditorStep
import Mathlib.Data.List.Induction

set_option autoImplicit false

namespace EditableProfile

theorem Record.set_back (record : Record) (field : Field) (value : String) :
    (record.set field value).set field (record.get field) = record := by
  cases field <;> rfl

namespace Transition

def undo? : Transition → Option Action
  | .changed field before _ => some (.change field before)
  | _ => none

def turned : Transition → Transition
  | .changed field before after => .changed field after before
  | transition => transition

end Transition

def changing (changes : List (Field × String)) : List Action :=
  changes.map fun change => .change change.1 change.2

def undoing (history : List Transition) : List Action :=
  history.reverse.filterMap Transition.undo?

theorem undoing_changed (field : Field) (before after : String) (history : List Transition) :
    undoing (.changed field before after :: history) =
      undoing history ++ [.change field before] := by
  simp [undoing, Transition.undo?]

-- Nothing for a field that is not changed at all.
def lastGiven? (changes : List (Field × String)) (field : Field) : Option String :=
  changes.reverse.lookup field

theorem last_given_snoc (changes : List (Field × String)) (field other : Field) (value : String) :
    lastGiven? (changes ++ [(field, value)]) other =
      if other = field then some value else lastGiven? changes other := by
  rw [lastGiven?, List.reverse_append, List.reverse_singleton, List.singleton_append,
    List.lookup_cons]
  by_cases same : other = field
  · rw [if_pos same, beq_iff_eq.mpr same]
  · rw [if_neg same, beq_eq_false_iff_ne.mpr same]
    rfl

namespace Editor

theorem apply_change (editor : Editor) (editing : editor.mode = .editing) (field : Field)
    (value : String) : editor.apply (.change field value) =
      ({ editor with buffer := editor.buffer.set field value },
        .changed field (editor.buffer.get field) value) := by
  obtain ⟨opened, buffer, mode⟩ := editor
  cases editing
  rfl

structure Changed (before : Editor) (changes : List (Field × String)) (after : Editor) : Prop where
  opened : after.opened = before.opened
  mode : after.mode = .editing
  buffer : ∀ field, after.buffer.get field =
    (lastGiven? changes field).getD (before.buffer.get field)

theorem changed_step (before after : Editor) (changes : List (Field × String)) (field : Field)
    (value : String) (changed : Changed before changes after) :
    Changed before (changes ++ [(field, value)]) (after.apply (.change field value)).1 := by
  rw [apply_change after changed.mode]
  refine ⟨changed.opened, changed.mode, fun other => ?_⟩
  rw [last_given_snoc]
  by_cases same : other = field
  · rw [if_pos same, same]
    exact Record.get_set_self after.buffer field value
  · rw [if_neg same, ← changed.buffer other]
    exact Record.get_set_other after.buffer field other value same

theorem run_changed (editor : Editor) (editing : editor.mode = .editing)
    (changes : List (Field × String)) :
    Changed editor changes (editor.run (changing changes)).1 := by
  induction changes using List.reverseRecOn with
  | nil => exact ⟨rfl, editing, fun _ => rfl⟩
  | append_singleton changes change hypothesis =>
      rw [changing, List.map_append, run_append]
      exact changed_step editor _ changes change.1 change.2 hypothesis

theorem changed_alike (before left right : Editor) (first second : List (Field × String))
    (changedLeft : Changed before first left) (changedRight : Changed before second right)
    (agree : ∀ field, lastGiven? first field = lastGiven? second field) : left = right := by
  have opened := changedLeft.opened.trans changedRight.opened.symm
  have mode := changedLeft.mode.trans changedRight.mode.symm
  have buffer : left.buffer = right.buffer := by
    apply Record.ext_get
    intro field
    rw [changedLeft.buffer field, changedRight.buffer field, agree field]
  cases left
  cases right
  simp only [Editor.mk.injEq]
  exact ⟨opened, buffer, mode⟩

theorem change_answer (editor : Editor) (editing : editor.mode = .editing)
    (changes : List (Field × String)) (place : Nat) (field : Field) (value : String)
    (asked : changes[place]? = some (field, value)) :
    (editor.run (changing changes)).2[place]? = some (.changed field
      ((editor.run (changing (changes.take place))).1.buffer.get field) value) := by
  have action : (changing changes)[place]? = some (.change field value) := by
    simp [changing, asked]
  have reached : (changing changes).take place = changing (changes.take place) :=
    (List.map_take ..).symm
  rw [(run_place editor _ place _ action).1, reached,
    apply_change _ (run_changed editor editing (changes.take place)).mode]

theorem apply_undone (editor : Editor) (editing : editor.mode = .editing) (field : Field)
    (value : String) :
    (editor.apply (.change field value)).1.apply (.change field (editor.buffer.get field)) =
      (editor, .changed field value (editor.buffer.get field)) := by
  rw [apply_change editor editing]
  generalize changed : { editor with buffer := editor.buffer.set field value } = next
  have still : next.mode = .editing := changed ▸ editing
  rw [apply_change next still, ← changed, Record.set_back, Record.get_set_self]

theorem run_changing_cons (editor : Editor) (editing : editor.mode = .editing) (field : Field)
    (value : String) (rest : List (Field × String)) :
    editor.run (changing ((field, value) :: rest)) =
      (((editor.apply (.change field value)).1.run (changing rest)).1,
        .changed field (editor.buffer.get field) value ::
          ((editor.apply (.change field value)).1.run (changing rest)).2) := by
  rw [changing, List.map_cons, run, apply_change editor editing]
  rfl

-- By induction from the front: what is changed first is undone last.
theorem run_undone (editor : Editor) (editing : editor.mode = .editing)
    (changes : List (Field × String)) :
    (editor.run (changing changes)).1.run (undoing (editor.run (changing changes)).2) =
      (editor, (editor.run (changing changes)).2.reverse.map Transition.turned) := by
  induction changes generalizing editor with
  | nil => rfl
  | cons change rest hypothesis =>
      obtain ⟨field, value⟩ := change
      have still : (editor.apply (.change field value)).1.mode = .editing := by
        rw [apply_change editor editing]
        exact editing
      have later := hypothesis _ still
      have back := apply_undone editor editing field value
      rw [run_changing_cons editor editing, undoing_changed, run_append, later]
      simp only [run, back, List.reverse_cons, List.map_append]
      rfl

theorem changes_undone_by_transitions (editor : Editor) (editing : editor.mode = .editing) :
    (∀ changes place field value, changes[place]? = some (field, value) →
      (editor.run (changing changes)).2[place]? = some (Transition.changed field
        ((editor.run (changing (changes.take place))).1.buffer.get field) value)) ∧
    (∀ changes, let result := editor.run (changing changes)
      result.1.run (undoing result.2) = (editor, result.2.reverse.map Transition.turned)) ∧
    (∀ first second, (∀ field, lastGiven? first field = lastGiven? second field) →
      (editor.run (changing first)).1 = (editor.run (changing second)).1) := by
  refine ⟨change_answer editor editing, run_undone editor editing, ?_⟩
  intro first second agree
  exact changed_alike editor _ _ first second (run_changed editor editing first)
    (run_changed editor editing second) agree

def scribbled : List (Field × String) := [(.email, "x"), (.avatar, ""), (.email, "y")]

theorem changes_undone_by_transitions_scribbled :
    let editor : Editor := ⟨Sample.bob, Sample.alice, .editing⟩
    let result := editor.run (changing scribbled)
    editor.mode = .editing ∧ result.1.buffer = ⟨"alice", "y", ""⟩ ∧
      scribbled[2]? = some (.email, "y") ∧ result.2[2]? = some (.changed .email "x" "y") ∧
      undoing result.2 = changing [(.email, "x"), (.avatar, "http://x/a.png"),
        (.email, "alice@example.com")] ∧
      (result.1.run (undoing result.2)).1 = editor ∧
      (∀ field, lastGiven? scribbled field = lastGiven? [(.email, "y"), (.avatar, "")] field) ∧
      result.1 = (editor.run (changing [(.email, "y"), (.avatar, "")])).1 := by
  intro editor result
  have editing : editor.mode = .editing := rfl
  obtain ⟨answers, undone, alike⟩ := changes_undone_by_transitions editor editing
  have asked : scribbled[2]? = some (.email, "y") := rfl
  have agree : ∀ field,
      lastGiven? scribbled field = lastGiven? [(.email, "y"), (.avatar, "")] field := by
    intro field
    cases field <;> rfl
  have back := congrArg Prod.fst (undone scribbled)
  exact ⟨editing, by decide, asked, answers scribbled 2 .email "y" asked, by decide, back, agree,
    alike _ _ agree⟩

end Editor

end EditableProfile

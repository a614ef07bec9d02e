import EditableProfile.Wire.View
import EditableProfile.Proofs.FieldNames
import EditableProfile.Proofs.ViewOffers
import EditableProfile.Proofs.WireRoundTrip
import Mathlib.Tactic.TFAE

set_option autoImplicit false

namespace EditableProfile

open Json Json.Value

theorem Mode.name_injective : Function.Injective Mode.name := by
  intro first second same
  cases first <;> cases second <;> simp_all [name]

theorem InputKind.name_injective : Function.Injective InputKind.name := by
  intro first second same
  cases first <;> cases second <;> simp_all [name]

theorem Action.to_value_injective : Function.Injective Action.toValue := by
  intro first second same
  have read := first.reader_write []
  rw [same, second.reader_write] at read
  exact (Prod.mk.inj (Except.ok.inj read)).1.symm

theorem elim_null_injective {α : Type} (write : α → Value) (distinct : Function.Injective write)
    (present : ∀ a, write a ≠ .null) :
    Function.Injective fun shown : Option α => shown.elim .null write := by
  intro first second same
  cases first with
  | none =>
      cases second with
      | none => rfl
      | some b => exact absurd same.symm (present b)
  | some a =>
      cases second with
      | none => exact absurd same (present a)
      | some b => rw [distinct same]

theorem Control.members_injective : Function.Injective Control.members := by
  intro first second same
  simp only [members, List.cons.injEq, Prod.mk.injEq, Value.string.injEq, true_and, and_true] at same
  obtain ⟨fields, kinds, values, hints⟩ := same
  have hint := elim_null_injective Value.string (fun _ _ => Value.string.inj)
    (fun _ => Value.noConfusion) hints
  cases first
  cases second
  rw [mk.injEq]
  exact ⟨Field.name_injective fields, InputKind.name_injective kinds, values, hint⟩

theorem Control.to_value_injective : Function.Injective Control.toValue := by
  intro first second same
  exact Control.members_injective (Value.object.inj same)

theorem Portrait.to_value_injective : Function.Injective Portrait.toValue := by
  intro first second same
  simp only [toValue, Value.object.injEq, List.cons.injEq, Prod.mk.injEq, Value.string.injEq,
    true_and, and_true] at same
  obtain ⟨sources, captions, inputs⟩ := same
  have input := elim_null_injective Control.toValue Control.to_value_injective
    (fun _ => Value.noConfusion) inputs
  cases first
  cases second
  rw [mk.injEq]
  exact ⟨sources, captions, input⟩

theorem Content.to_value_injective : Function.Injective Content.toValue := by
  intro first second same
  cases first with
  | text value =>
      cases second with
      | text other => simpa [toValue] using same
      | input control => simp [toValue] at same
  | input control =>
      cases second with
      | text value => simp [toValue] at same
      | input other =>
          have members := (List.cons.inj (Value.object.inj same)).2
          rw [Control.members_injective members]

theorem Row.to_value_injective : Function.Injective Row.toValue := by
  intro first second same
  simp only [toValue, Value.object.injEq, List.cons.injEq, Prod.mk.injEq, Value.string.injEq,
    true_and, and_true] at same
  obtain ⟨fields, labels, contents⟩ := same
  cases first
  cases second
  rw [mk.injEq]
  exact ⟨Field.name_injective fields, labels, Content.to_value_injective contents⟩

theorem Button.to_value_injective : Function.Injective Button.toValue := by
  intro first second same
  simp only [toValue, Value.object.injEq, List.cons.injEq, Prod.mk.injEq, Value.string.injEq,
    true_and, and_true] at same
  obtain ⟨labels, actions⟩ := same
  cases first
  cases second
  rw [mk.injEq]
  exact ⟨labels, Action.to_value_injective actions⟩

theorem View.to_value_injective : Function.Injective View.toValue := by
  intro first second same
  simp only [toValue, Value.object.injEq, List.cons.injEq, Prod.mk.injEq, Value.string.injEq,
    Value.array.injEq, true_and, and_true] at same
  obtain ⟨headings, modes, portraits, rows, buttons⟩ := same
  cases first
  cases second
  rw [mk.injEq]
  exact ⟨headings, Mode.name_injective modes, Portrait.to_value_injective portraits,
    List.map_injective_iff.mpr Row.to_value_injective rows,
    List.map_injective_iff.mpr Button.to_value_injective buttons⟩

theorem plain_items_map {α : Type} (write : α → Value) (items : List α)
    (plain : ∀ item, (write item).Plain) : PlainItems (items.map write) := by
  induction items with
  | nil => trivial
  | cons item rest hypothesis => exact ⟨plain item, hypothesis⟩

theorem Control.plain_members (control : Control) : PlainMembers control.members := by
  cases hint : control.hint <;> simp [members, hint, PlainMembers, Plain]

theorem Portrait.plain_to_value (portrait : Portrait) : portrait.toValue.Plain := by
  cases input : portrait.input with
  | none => simp [toValue, input, PlainMembers, Plain]
  | some control =>
      simp [toValue, input, PlainMembers, Plain, Control.toValue, control.plain_members]

theorem Content.plain_to_value (content : Content) : content.toValue.Plain := by
  cases content with
  | text value => simp [toValue, PlainMembers, Plain]
  | input control => exact ⟨trivial, control.plain_members⟩

theorem Row.plain_to_value (row : Row) : row.toValue.Plain := by
  simp [toValue, PlainMembers, Plain, row.content.plain_to_value]

theorem Action.plain_to_value (action : Action) : action.toValue.Plain := by
  cases action <;> simp [toValue, PlainMembers, Plain]

theorem Button.plain_to_value (button : Button) : button.toValue.Plain := by
  simp [toValue, PlainMembers, Plain, button.action.plain_to_value]

theorem View.plain_to_value (view : View) : view.toValue.Plain := by
  simp [toValue, PlainMembers, Plain, view.portrait.plain_to_value,
    plain_items_map Row.toValue view.rows Row.plain_to_value,
    plain_items_map Button.toValue view.buttons Button.plain_to_value]

theorem View.json_injective : Function.Injective View.json := by
  intro first second same
  exact View.to_value_injective
    (text_unique _ _ first.plain_to_value second.plain_to_value same)

def View.shown (view : View) (field : Field) : String :=
  if field = .avatar then view.portrait.source
  else (((view.input? field).map Control.value).or (view.text? field)).getD ""

namespace Editor

theorem input_editing (editor : Editor) (editing : editor.mode = .editing) (field : Field) :
    editor.view.input? field = some (Control.forField field (editor.buffer.get field)) := by
  rw [View.input?, find_by_key Control.field _ (input_fields_nodup editor),
    inputs_editing editor editing]
  exact ⟨List.mem_map_of_mem (Field.mem_all field), rfl⟩

theorem text_editing (editor : Editor) (editing : editor.mode = .editing) (field : Field) :
    editor.view.text? field = none := by
  cases field <;> simp [View.text?, view, row, editing, Content.text?]

theorem text_viewing (editor : Editor) (viewing : editor.mode = .viewing) (field : Field) :
    editor.view.text? field = if field = .avatar then none else some (editor.buffer.get field) := by
  cases field <;> simp [View.text?, view, row, viewing, Content.text?]

theorem input_viewing (editor : Editor) (viewing : editor.mode = .viewing) (field : Field) :
    editor.view.input? field = none := by
  rw [View.input?, inputs_viewing editor viewing]
  rfl

theorem shown_buffer (editor : Editor) (field : Field) :
    editor.view.shown field = editor.buffer.get field := by
  by_cases isAvatar : field = .avatar
  · subst isAvatar
    rfl
  · rw [View.shown, if_neg isAvatar]
    cases mode : editor.mode with
    | viewing =>
        rw [input_viewing editor mode, text_viewing editor mode, if_neg isAvatar]
        rfl
    | editing =>
        rw [input_editing editor mode]
        rfl

theorem view_same_iff (left right : Editor) :
    left.view = right.view ↔ left.mode = right.mode ∧ left.buffer = right.buffer := by
  constructor
  · intro same
    refine ⟨congrArg View.mode same, Record.ext_get _ _ fun field => ?_⟩
    rw [← shown_buffer, same, shown_buffer]
  · rintro ⟨mode, buffer⟩
    simp only [view, portrait, row, buttons, mode, buffer]

-- Only a discard brings back the record that an editor was opened on.
theorem apply_reopened (editor : Editor) (opened : Record) (action : Action)
    (kept : (editor.apply action).2 ≠ .discarded) :
    ({ editor with opened := opened } : Editor).apply action =
      ({ (editor.apply action).1 with opened := opened }, (editor.apply action).2) := by
  obtain ⟨old, buffer, mode⟩ := editor
  cases mode with
  | viewing => cases action <;> rfl
  | editing =>
      cases action with
      | discard => exact absurd rfl kept
      | _ => rfl

theorem run_reopened (editor : Editor) (opened : Record) (actions : List Action)
    (kept : Transition.discarded ∉ (editor.run actions).2) :
    ({ editor with opened := opened } : Editor).run actions =
      ({ (editor.run actions).1 with opened := opened }, (editor.run actions).2) := by
  induction actions generalizing editor with
  | nil => rfl
  | cons action rest hypothesis =>
      obtain ⟨here, later⟩ := not_or.mp (mt List.mem_cons.mpr kept)
      rw [run, run, apply_reopened editor opened action (Ne.symm here)]
      simp only [hypothesis _ later]

theorem view_shows_mode_and_buffer :
    (∀ left right : Editor, List.TFAE [left.view = right.view, left.view.json = right.view.json,
      left.mode = right.mode ∧ left.buffer = right.buffer]) ∧
    (∀ editor : Editor, editor.mode = .editing →
      let control := fun field => Control.forField field (editor.buffer.get field)
      editor.view.inputs = Field.all.map control ∧
      (∀ field, (control field).field = field ∧ (control field).value = editor.buffer.get field) ∧
      ∀ field, editor.view.input? field = some (control field) ∧ editor.view.text? field = none) ∧
    (∀ editor : Editor, editor.mode = .viewing →
      editor.view.inputs = [] ∧
      editor.view.text? .username = some editor.buffer.username ∧
      editor.view.text? .email = some editor.buffer.email ∧
      editor.view.text? .avatar = none) ∧
    (∀ editor : Editor, editor.view.portrait.source = editor.buffer.avatar) ∧
    (∀ left right : Editor, left.mode = right.mode → left.buffer = right.buffer →
      ∀ actions, .discarded ∉ (left.run actions).2 →
        (left.run actions).1.view = (right.run actions).1.view) := by
  refine ⟨?_, ?_, ?_, fun _ => rfl, ?_⟩
  · intro left right
    tfae_have 1 → 2 := congrArg View.json
    tfae_have 2 → 1 := fun same => View.json_injective same
    tfae_have 1 ↔ 3 := view_same_iff left right
    tfae_finish
  · intro editor editing control
    refine ⟨inputs_editing editor editing, fun _ => ⟨rfl, rfl⟩, fun field => ?_⟩
    exact ⟨input_editing editor editing field, text_editing editor editing field⟩
  · intro editor viewing
    refine ⟨inputs_viewing editor viewing, ?_, ?_, ?_⟩
    · exact text_viewing editor viewing .username
    · exact text_viewing editor viewing .email
    · exact text_viewing editor viewing .avatar
  · intro left right mode buffer actions kept
    have reopened := run_reopened left right.opened actions kept
    rw [mode, buffer] at reopened
    rw [view_same_iff, reopened]
    exact ⟨rfl, rfl⟩

theorem view_shows_mode_and_buffer_reopened :
    let left := start Sample.alice
    let right : Editor := ⟨Sample.bob, Sample.alice, .viewing⟩
    let actions := [Action.beginEdit, .change .email "\"<", .confirm, .beginEdit]
    left ≠ right ∧ left.view.json = right.view.json ∧
      (left.run actions).1.view = (right.run actions).1.view ∧
      (left.run actions).1.view.text? .email = none ∧
      (left.run actions).1.view.input? .email = some (Control.forField .email "\"<") ∧
      (left.run (actions ++ [.discard])).1.view ≠ (right.run (actions ++ [.discard])).1.view := by
  intro left right actions
  obtain ⟨alike, editing, _, _, reopened⟩ := view_shows_mode_and_buffer
  obtain ⟨_, _, controls⟩ := editing (left.run actions).1 (by decide)
  have shown : left.mode = right.mode ∧ left.buffer = right.buffer := ⟨rfl, rfl⟩
  refine ⟨by decide, ((alike left right).out 2 1).mp shown, ?_, (controls .email).2,
    (controls .email).1, by decide⟩
  exact reopened left right rfl rfl actions (by decide)

end Editor

end EditableProfile

import EditableProfile.View
import EditableProfile.Proofs.EditorStep
import Mathlib.Data.List.Nodup

set_option autoImplicit false

namespace EditableProfile

inductive Widget where
  | button (shown : Button)
  | input (control : Control)

namespace Widget

def Offers : Widget → Action → Prop
  | .button shown, action => shown.action = action
  | .input control, action => ∃ value, control.change value = action

end Widget

theorem find_by_key {α κ : Type} [BEq κ] [LawfulBEq κ] (key : α → κ) (items : List α)
    (distinct : (items.map key).Nodup) (wanted : κ) (item : α) :
    (items.find? fun candidate => key candidate == wanted) = some item ↔
      item ∈ items ∧ key item = wanted := by
  constructor
  · intro found
    have hit := List.find?_some found
    exact ⟨List.mem_of_find?_eq_some found, eq_of_beq hit⟩
  · rintro ⟨member, same⟩
    cases found : items.find? fun candidate => key candidate == wanted with
    | none =>
        have absent := List.find?_eq_none.mp found item member
        simp [same] at absent
    | some other =>
        have hit := List.find?_some found
        have sameKey : key other = key item := (eq_of_beq hit).trans same.symm
        rw [List.inj_on_of_nodup_map distinct (List.mem_of_find?_eq_some found) member sameKey]

namespace View

def widgets (view : View) : List Widget :=
  view.buttons.map Widget.button ++ view.inputs.map Widget.input

def Offers (view : View) (action : Action) : Prop :=
  (∃ button ∈ view.buttons, button.action = action) ∨
    ∃ control ∈ view.inputs, ∃ value, control.change value = action

theorem offers_widget (view : View) (action : Action) :
    view.Offers action ↔ ∃ widget ∈ view.widgets, widget.Offers action := by
  constructor
  · rintro (⟨button, member, same⟩ | ⟨control, member, value, same⟩)
    · exact ⟨.button button, List.mem_append_left _ (List.mem_map_of_mem member), same⟩
    · exact ⟨.input control, List.mem_append_right _ (List.mem_map_of_mem member), value, same⟩
  · rintro ⟨widget, member, offers⟩
    rcases List.mem_append.mp member with atButton | atInput
    · obtain ⟨button, present, rfl⟩ := List.mem_map.mp atButton
      exact .inl ⟨button, present, offers⟩
    · obtain ⟨control, present, rfl⟩ := List.mem_map.mp atInput
      exact .inr ⟨control, present, offers⟩

end View

namespace Editor

theorem inputs_viewing (editor : Editor) (viewing : editor.mode = .viewing) :
    editor.view.inputs = [] := by
  simp [View.inputs, view, portrait, row, viewing, Content.control?]

theorem inputs_editing (editor : Editor) (editing : editor.mode = .editing) :
    editor.view.inputs =
      Field.all.map fun field => Control.forField field (editor.buffer.get field) := by
  simp [View.inputs, view, portrait, row, editing, Content.control?, Field.all, Record.get]

theorem buttons_viewing (editor : Editor) (viewing : editor.mode = .viewing) :
    editor.view.buttons = [⟨Caption.edit, .beginEdit⟩] := by
  simp [view, buttons, viewing]

theorem buttons_editing (editor : Editor) (editing : editor.mode = .editing) :
    editor.view.buttons = [⟨Caption.save, .confirm⟩, ⟨Caption.cancel, .discard⟩] := by
  simp [view, buttons, editing]

theorem labels_nodup (editor : Editor) : editor.view.labels.Nodup := by
  cases mode : editor.mode with
  | viewing => rw [View.labels, buttons_viewing editor mode]; decide
  | editing => rw [View.labels, buttons_editing editor mode]; decide

theorem input_fields_nodup (editor : Editor) :
    (editor.view.inputs.map Control.field).Nodup := by
  cases mode : editor.mode with
  | viewing => rw [inputs_viewing editor mode]; exact List.nodup_nil
  | editing =>
      rw [inputs_editing editor mode, List.map_map]
      change (Field.all.map id).Nodup
      decide

theorem view_offers (editor : Editor) (action : Action) :
    editor.view.Offers action ↔ editor.mode.accepts action = true := by
  cases mode : editor.mode with
  | viewing =>
      rw [View.Offers, buttons_viewing editor mode, inputs_viewing editor mode]
      cases action <;> simp [Mode.accepts]
  | editing =>
      rw [View.Offers, buttons_editing editor mode, inputs_editing editor mode]
      cases action with
      | beginEdit => simp [Mode.accepts, Control.change]
      | change field value =>
          simp [Mode.accepts, Control.change, Control.forField, Field.mem_all]
      | confirm => simp [Mode.accepts]
      | discard => simp [Mode.accepts]

theorem widgets_disjoint (editor : Editor) :
    editor.view.widgets.Pairwise fun first second =>
      ∀ action, first.Offers action → ¬ second.Offers action := by
  have fields := input_fields_nodup editor
  rw [View.widgets, List.pairwise_append]
  refine ⟨?_, ?_, ?_⟩
  · cases mode : editor.mode with
    | viewing => simp [buttons_viewing editor mode]
    | editing => simp [buttons_editing editor mode, Widget.Offers]
  · rw [List.pairwise_map]
    refine (List.pairwise_map.mp fields).imp ?_
    rintro first second different action ⟨value, same⟩ ⟨other, again⟩
    rw [← same] at again
    simp only [Control.change, Action.change.injEq] at again
    exact different again.1.symm
  · intro first atButton second atInput action offers
    obtain ⟨button, member, rfl⟩ := List.mem_map.mp atButton
    obtain ⟨control, _, rfl⟩ := List.mem_map.mp atInput
    rintro ⟨value, same⟩
    have wired : button.action = control.change value := offers.trans same.symm
    cases mode : editor.mode with
    | viewing =>
        rw [buttons_viewing editor mode, List.mem_singleton] at member
        rw [member] at wired
        cases wired
    | editing =>
        rw [buttons_editing editor mode, List.mem_pair] at member
        rcases member with isSave | isCancel
        · rw [isSave] at wired
          cases wired
        · rw [isCancel] at wired
          cases wired

theorem offered_once (editor : Editor) (action : Action) (offered : editor.view.Offers action) :
    ∃! place : Nat, ∃ widget : Widget,
      editor.view.widgets[place]? = some widget ∧ widget.Offers action := by
  obtain ⟨widget, member, offers⟩ := (View.offers_widget editor.view action).mp offered
  obtain ⟨place, within, found⟩ := List.mem_iff_getElem.mp member
  have placed : editor.view.widgets[place]? = some widget := by
    rw [List.getElem?_eq_getElem within, found]
  refine ⟨place, ⟨widget, placed, offers⟩, ?_⟩
  rintro other ⟨twin, twinFound, twinOffers⟩
  obtain ⟨otherWithin, twinEq⟩ := List.getElem?_eq_some_iff.mp twinFound
  have disjoint := List.pairwise_iff_getElem.mp (widgets_disjoint editor)
  rw [← found] at offers
  rw [← twinEq] at twinOffers
  rcases Nat.lt_trichotomy other place with before | same | after
  · exact absurd offers (disjoint other place otherWithin within before action twinOffers)
  · exact same
  · exact absurd twinOffers (disjoint place other within otherWithin after action offers)

theorem offered_iff_accepted (editor : Editor) :
    (∀ action, (editor.apply action).2.isIgnored = false ↔ editor.view.Offers action) ∧
    (∀ action, (editor.apply action).2.isIgnored = false →
      ∃! place : Nat, ∃ widget : Widget,
        editor.view.widgets[place]? = some widget ∧ widget.Offers action) ∧
    editor.view.labels.Nodup ∧
    (∀ label button, editor.view.button? label = some button ↔
      button ∈ editor.view.buttons ∧ button.label = label) ∧
    (∀ field control, editor.view.input? field = some control ↔
      control ∈ editor.view.inputs ∧ ∀ value, control.change value = .change field value) := by
  have accepted : ∀ action,
      (editor.apply action).2.isIgnored = false ↔ editor.view.Offers action := by
    intro action
    rw [apply_accepted, view_offers]
    simp
  refine ⟨accepted, ?_, labels_nodup editor, ?_, ?_⟩
  · intro action answered
    exact offered_once editor action ((accepted action).mp answered)
  · intro label button
    exact find_by_key Button.label editor.view.buttons (labels_nodup editor) label button
  · intro field control
    rw [View.input?, find_by_key Control.field _ (input_fields_nodup editor)]
    simp [Control.change]

end Editor

end EditableProfile

import EditableProfile.Proofs.EditorStep
import Mathlib.Computability.Language

/-!
Ignored actions can be left out of a run, and the transitions that remain follow one grammar: edits one
after another, each started, then changed any number of times, then confirmed or discarded. Every
beginning of such a word is what some script brings about, and no action of the script is ignored.
-/

set_option autoImplicit false

open scoped Computability

namespace EditableProfile

namespace Action

def kind : Action → Kind
  | .beginEdit => .started
  | .change _ _ => .changed
  | .confirm => .confirmed
  | .discard => .discarded

def target : Action → Mode
  | .beginEdit => .editing
  | .change _ _ => .editing
  | .confirm => .viewing
  | .discard => .viewing

end Action

namespace Transition

def granted? : Transition → Option Action
  | .started => some .beginEdit
  | .changed field _ after => some (.change field after)
  | .confirmed _ => some .confirm
  | .discarded => some .discard
  | .ignored _ => none

theorem granted_kind (transition : Transition) (action : Action)
    (granted : transition.granted? = some action) : transition.kind = action.kind := by
  cases transition with
  | ignored mode => cases granted
  | _ => cases granted; rfl

theorem granted_kinds (history : List Transition) (script : List Action)
    (granted : history.map granted? = script.map some) :
    history.map kind = script.map Action.kind := by
  induction history generalizing script with
  | nil => rw [List.map_eq_nil_iff.mp granted.symm]; rfl
  | cons transition rest hypothesis =>
      cases script with
      | nil => cases granted
      | cons action others =>
          obtain ⟨first, later⟩ := List.cons.inj granted
          rw [List.map_cons, List.map_cons, hypothesis others later,
            granted_kind transition action first]

end Transition

namespace Grammar

def edit : Language Kind := {[.started]} * ({[.changed]}∗ * ({[.confirmed]} + {[.discarded]}))

def edits : Language Kind := edit∗

def beginnings (language : Language Kind) : Language Kind :=
  {word | ∃ rest, word ++ rest ∈ language}

/-- What may still come in a mode for the whole to be made of edits. -/
def follow : Mode → Language Kind
  | .viewing => edits
  | .editing => {[.changed]}∗ * ({[.confirmed]} + {[.discarded]}) * edits

theorem cons_mem_singleton_mul (kind first : Kind) (rest : List Kind) (language : Language Kind) :
    first :: rest ∈ ({[kind]} : Language Kind) * language ↔ first = kind ∧ rest ∈ language := by
  rw [Language.mem_mul]
  constructor
  · rintro ⟨left, isKind, right, member, joined⟩
    have same : left = [kind] := isKind
    subst same
    obtain ⟨head, tail⟩ := List.cons.inj joined
    exact ⟨head.symm, tail ▸ member⟩
  · rintro ⟨head, member⟩
    exact ⟨[kind], rfl, rest, member, by rw [head]; rfl⟩

theorem edits_unfold : edits = 1 + {[.started]} * follow .editing := by
  rw [edits, ← Language.one_add_self_mul_kstar_eq_kstar, follow, edits, edit, mul_assoc]

theorem follow_editing_unfold : follow .editing =
    {[.changed]} * follow .editing + ({[.confirmed]} * edits + {[.discarded]} * edits) := by
  have changes : ({[Kind.changed]} : Language Kind)∗ = 1 + {[.changed]} * {[.changed]}∗ :=
    (Language.one_add_self_mul_kstar_eq_kstar _).symm
  calc follow .editing
      = (1 + {[.changed]} * {[.changed]}∗) * ({[.confirmed]} + {[.discarded]}) * edits := by
        rw [← changes, follow]
    _ = {[.changed]} * follow .editing + ({[.confirmed]} * edits + {[.discarded]} * edits) := by
        rw [add_mul, add_mul, one_mul, add_comm, mul_assoc, mul_assoc, ← mul_assoc _ _ edits,
          add_mul, follow]

theorem edits_cons (first : Kind) (rest : List Kind) :
    first :: rest ∈ edits ↔ first = .started ∧ rest ∈ follow .editing := by
  conv_lhs => rw [edits_unfold]
  rw [Language.mem_add, cons_mem_singleton_mul, Language.mem_one]
  simp

theorem follow_editing_cons (first : Kind) (rest : List Kind) :
    first :: rest ∈ follow .editing ↔ first = .changed ∧ rest ∈ follow .editing ∨
      first = .confirmed ∧ rest ∈ edits ∨ first = .discarded ∧ rest ∈ edits := by
  conv_lhs => rw [follow_editing_unfold]
  simp only [Language.mem_add, cons_mem_singleton_mul]

-- The modes are the states of an automaton for the words made of edits.
theorem follow_cons (mode : Mode) (action : Action) (rest : List Kind) :
    action.kind :: rest ∈ follow mode ↔
      mode.accepts action = true ∧ rest ∈ follow action.target := by
  cases mode with
  | viewing =>
      change action.kind :: rest ∈ edits ↔ _
      rw [edits_cons]
      cases action <;> simp [Action.kind, Action.target, Mode.accepts]
  | editing =>
      rw [follow_editing_cons]
      cases action <;> simp [Action.kind, Action.target, Mode.accepts, follow]

theorem beginnings_cons (mode : Mode) (action : Action) (word : List Kind) :
    action.kind :: word ∈ beginnings (follow mode) ↔
      mode.accepts action = true ∧ word ∈ beginnings (follow action.target) := by
  constructor
  · rintro ⟨rest, member⟩
    obtain ⟨accepted, later⟩ := (follow_cons mode action (word ++ rest)).mp member
    exact ⟨accepted, rest, later⟩
  · rintro ⟨accepted, rest, later⟩
    exact ⟨rest, (follow_cons mode action (word ++ rest)).mpr ⟨accepted, later⟩⟩

theorem nil_mem_beginnings (mode : Mode) : [] ∈ beginnings (follow mode) := by
  cases mode with
  | viewing => exact ⟨[], Language.nil_mem_kstar edit⟩
  | editing =>
      exact ⟨[.discarded], (follow_cons .editing .discard []).mpr ⟨rfl, Language.nil_mem_kstar edit⟩⟩

theorem word_spelled (mode : Mode) (word : List Kind) (member : word ∈ beginnings (follow mode)) :
    ∃ script : List Action, script.map Action.kind = word := by
  induction word generalizing mode with
  | nil => exact ⟨[], rfl⟩
  | cons first rest hypothesis =>
      obtain ⟨more, whole⟩ := member
      have spelled : ∃ action : Action, action.kind = first ∧ rest ++ more ∈ follow action.target := by
        cases mode with
        | viewing =>
            obtain ⟨rfl, later⟩ := (edits_cons first (rest ++ more)).mp whole
            exact ⟨.beginEdit, rfl, later⟩
        | editing =>
            rcases (follow_editing_cons first (rest ++ more)).mp whole with
              ⟨rfl, later⟩ | ⟨rfl, later⟩ | ⟨rfl, later⟩
            · exact ⟨.change .username "", rfl, later⟩
            · exact ⟨.confirm, rfl, later⟩
            · exact ⟨.discard, rfl, later⟩
      obtain ⟨action, rfl, later⟩ := spelled
      obtain ⟨script, rfl⟩ := hypothesis action.target ⟨more, later⟩
      exact ⟨action :: script, rfl⟩

end Grammar

open Grammar

namespace Editor

theorem apply_granted (editor : Editor) (action : Action)
    (accepted : editor.mode.accepts action = true) :
    (editor.apply action).2.granted? = some action ∧ (editor.apply action).1.mode = action.target := by
  have step := apply_step editor action
  generalize (editor.apply action).1 = next, (editor.apply action).2 = transition at step
  cases step with
  | ignored _ _ refused => rw [refused] at accepted; cases accepted
  | _ => exact ⟨rfl, rfl⟩

theorem apply_ignored_iff (editor : Editor) (action : Action) (mode : Mode) :
    (editor.apply action).2 = .ignored mode ↔ mode = editor.mode ∧
      (action = .beginEdit ∧ mode = .editing ∨ action ≠ .beginEdit ∧ mode = .viewing) := by
  rcases editor with ⟨opened, buffer, current⟩
  cases current <;> cases action <;> cases mode <;> simp [apply]

-- The actions of a run without those that are ignored in it.
def effective (editor : Editor) (actions : List Action) : List Action :=
  ((actions.zip (editor.run actions).2).filter fun step => !step.2.isIgnored).map Prod.fst

theorem effective_cons (editor : Editor) (action : Action) (rest : List Action) :
    editor.effective (action :: rest) = if editor.mode.accepts action then
      action :: (editor.apply action).1.effective rest else editor.effective rest := by
  cases accepted : editor.mode.accepts action with
  | false => simp [effective, run, apply_refused editor action accepted, Transition.isIgnored]
  | true => simp [effective, run, apply_accepted, accepted]

theorem run_effective (editor : Editor) (actions : List Action) :
    editor.run (editor.effective actions) = ((editor.run actions).1,
      (editor.run actions).2.filter fun transition => !transition.isIgnored) := by
  induction actions generalizing editor with
  | nil => rfl
  | cons action rest hypothesis =>
      rw [effective_cons]
      cases accepted : editor.mode.accepts action with
      | false =>
          simp [run, apply_refused editor action accepted, Transition.isIgnored, hypothesis]
      | true => simp [run, apply_accepted, accepted, hypothesis]

theorem effective_kinds (editor : Editor) (actions : List Action) :
    ((editor.run actions).2.filter fun transition => !transition.isIgnored).map Transition.kind ∈
      beginnings (follow editor.mode) := by
  induction actions generalizing editor with
  | nil => exact nil_mem_beginnings editor.mode
  | cons action rest hypothesis =>
      cases accepted : editor.mode.accepts action with
      | false =>
          have later := hypothesis editor
          simpa [run, apply_refused editor action accepted, Transition.isIgnored] using later
      | true =>
          obtain ⟨granted, reached⟩ := apply_granted editor action accepted
          have later := hypothesis (editor.apply action).1
          rw [reached] at later
          have word := (beginnings_cons editor.mode action _).mpr ⟨accepted, later⟩
          rw [← Transition.granted_kind _ _ granted] at word
          simpa [run, apply_accepted, accepted] using word

theorem run_script (editor : Editor) (script : List Action)
    (word : script.map Action.kind ∈ beginnings (follow editor.mode)) :
    (editor.run script).2.map Transition.granted? = script.map some := by
  induction script generalizing editor with
  | nil => rfl
  | cons action rest hypothesis =>
      obtain ⟨accepted, later⟩ := (beginnings_cons editor.mode action _).mp word
      obtain ⟨granted, reached⟩ := apply_granted editor action accepted
      rw [← reached] at later
      rw [run, List.map_cons, List.map_cons, granted, hypothesis _ later]

theorem ignored_steps_erasable (user : Record) (actions : List Action) :
    let history := ((start user).run actions).2
    let reached := fun count => ((start user).run (actions.take count)).1
    let kept := history.filter fun transition => !transition.isIgnored
    (∀ place action, actions[place]? = some action → ∀ mode,
      (history[place]? = some (.ignored mode) ↔ mode = (reached place).mode ∧
        (action = .beginEdit ∧ mode = .editing ∨ action ≠ .beginEdit ∧ mode = .viewing)) ∧
      (history[place]? = some (.ignored mode) → reached (place + 1) = reached place)) ∧
    (start user).run ((start user).effective actions) = (((start user).run actions).1, kept) ∧
    kept.map Transition.kind ∈ beginnings edits ∧
    (∀ word ∈ beginnings edits, ∃ script : List Action, script.map Action.kind = word) ∧
    (∀ script : List Action, script.map Action.kind ∈ beginnings edits →
      ((start user).run script).2.map Transition.kind = script.map Action.kind ∧
        ((start user).run script).2.map Transition.granted? = script.map some) := by
  intro history reached kept
  refine ⟨?_, run_effective (start user) actions, effective_kinds (start user) actions,
    word_spelled .viewing, ?_⟩
  · intro place action asked mode
    obtain ⟨answer, next⟩ := run_place (start user) actions place action asked
    have ignored : history[place]? = some (.ignored mode) ↔
        ((reached place).apply action).2 = .ignored mode := by
      rw [answer, Option.some.injEq]
    refine ⟨ignored.trans (apply_ignored_iff (reached place) action mode), ?_⟩
    intro answered
    have refused : (reached place).mode.accepts action = false := by
      have silent := apply_accepted (reached place) action
      rw [ignored.mp answered] at silent
      simpa [Transition.isIgnored] using silent
    exact next.trans (congrArg Prod.fst (apply_refused (reached place) action refused))
  · intro script word
    have granted := run_script (start user) script word
    exact ⟨Transition.granted_kinds _ script granted, granted⟩

def untimely : List Action :=
  [.confirm, .beginEdit, .beginEdit, .change .email "x", .discard, .change .avatar "", .beginEdit]

def timely : List Action := [.beginEdit, .change .email "x", .discard, .beginEdit]

theorem ignored_steps_erasable_untimely :
    (start Sample.alice).effective untimely = timely ∧
      ((start Sample.alice).run timely).1 = ((start Sample.alice).run untimely).1 ∧
      timely.map Action.kind ∈ beginnings edits ∧
      ((start Sample.alice).run timely).2.map Transition.granted? = timely.map some ∧
      ((start Sample.alice).run untimely).2[2]? = some (.ignored .editing) := by
  obtain ⟨steps, erased, kinds, _, scripts⟩ := ignored_steps_erasable Sample.alice untimely
  have left : (start Sample.alice).effective untimely = timely := by decide
  have word : timely.map Action.kind ∈ beginnings edits := kinds
  rw [left] at erased
  refine ⟨left, by rw [erased], word, (scripts timely word).2, ?_⟩
  exact (steps 2 .beginEdit rfl .editing).1.mpr (by decide)

end Editor

end EditableProfile

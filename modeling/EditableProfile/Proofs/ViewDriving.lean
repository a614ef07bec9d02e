import EditableProfile.Proofs.SessionStep
import EditableProfile.Proofs.ViewOffers

set_option autoImplicit false

namespace EditableProfile

-- The actions that inputs come to, when each is looked up in the view as it is by then.
def Editor.understood {ι : Type} (meaning : View → ι → Option Action) (editor : Editor) :
    List ι → List Action
  | [] => []
  | input :: rest =>
      match meaning editor.view input with
      | none => editor.understood meaning rest
      | some action => action :: (editor.apply action).1.understood meaning rest

namespace Session

variable {σ : Type}

def heed {ι : Type} (meaning : View → ι → Option Action) (receive : Host σ) (session : Session σ)
    (input : ι) : Session σ × Option Outcome :=
  match meaning session.view input with
  | none => (session, none)
  | some action =>
      let step := session.dispatch receive action
      (step.1, some step.2)

theorem heed_none {ι : Type} (meaning : View → ι → Option Action) (receive : Host σ)
    (session : Session σ) (input : ι) (missing : meaning session.view input = none) :
    session.heed meaning receive input = (session, none) := by
  simp [heed, missing]

theorem heed_some {ι : Type} (meaning : View → ι → Option Action) (receive : Host σ)
    (session : Session σ) (input : ι) (action : Action)
    (found : meaning session.view input = some action) : session.heed meaning receive input =
      ((session.dispatch receive action).1, some (session.dispatch receive action).2) := by
  simp [heed, found]

theorem serve_heed {ι : Type} (meaning : View → ι → Option Action) (receive : Host σ)
    (session : Session σ) (inputs : List ι) :
    (serve (heed meaning receive) session inputs).1 =
        (session.run receive (session.editor.understood meaning inputs)).1 ∧
      (serve (heed meaning receive) session inputs).2.filterMap id =
        (session.run receive (session.editor.understood meaning inputs)).2 := by
  induction inputs generalizing session with
  | nil => exact ⟨rfl, rfl⟩
  | cons input rest hypothesis =>
      rw [serve, Editor.understood]
      cases found : meaning session.editor.view input with
      | none =>
          rw [heed_none meaning receive session input found]
          exact hypothesis session
      | some action =>
          obtain ⟨reached, answers⟩ := hypothesis (session.dispatch receive action).1
          rw [dispatch_editor] at reached answers
          rw [heed_some meaning receive session input action found, run_cons, ← answers]
          exact ⟨reached, rfl⟩

def browse (receive : Host σ) : Session σ → List Request → Session σ × List (Option Outcome) :=
  serve fun session wish => session.request receive wish

theorem request_heed (receive : Host σ) (session : Session σ) (wish : Request) :
    session.request receive wish = session.heed View.action? receive wish := rfl

theorem browse_understood (receive : Host σ) (session : Session σ) (script : List Request) :
    (session.browse receive script).1 =
        (session.run receive (session.editor.understood View.action? script)).1 ∧
      (session.browse receive script).2.filterMap id =
        (session.run receive (session.editor.understood View.action? script)).2 :=
  serve_heed View.action? receive session script

end Session

namespace View

def Has (view : View) : Request → Prop
  | .click label => ∃ button ∈ view.buttons, button.label = label
  | .type field _ => ∃ control ∈ view.inputs, control.field = field

instance (view : View) (wish : Request) : Decidable (view.Has wish) :=
  match wish with
  | .click label => inferInstanceAs (Decidable (∃ button ∈ view.buttons, button.label = label))
  | .type field _ => inferInstanceAs (Decidable (∃ control ∈ view.inputs, control.field = field))

theorem action_found_iff (view : View) (wish : Request) :
    (∃ action, view.action? wish = some action) ↔ view.Has wish := by
  cases wish with
  | click label => simp [← Option.isSome_iff_exists, action?, button?, Has]
  | type field value => simp [← Option.isSome_iff_exists, action?, input?, Has]

theorem action_found_offered (view : View) (wish : Request) (action : Action)
    (found : view.action? wish = some action) : view.Offers action := by
  cases wish with
  | click label =>
      obtain ⟨button, hit, same⟩ := Option.map_eq_some_iff.mp found
      exact .inl ⟨button, List.mem_of_find?_eq_some hit, same⟩
  | type field value =>
      obtain ⟨control, hit, same⟩ := Option.map_eq_some_iff.mp found
      exact .inr ⟨control, List.mem_of_find?_eq_some hit, value, same⟩

end View

def Action.wish : Action → Request
  | .beginEdit => .click Caption.edit
  | .change field value => .type field value
  | .confirm => .click Caption.save
  | .discard => .click Caption.cancel

namespace Editor

theorem found_accepted (editor : Editor) (wish : Request) (action : Action)
    (found : editor.view.action? wish = some action) : editor.mode.accepts action = true :=
  (view_offers editor action).mp (editor.view.action_found_offered wish action found)

theorem view_action_wish (editor : Editor) (action : Action) :
    editor.view.action? action.wish = if editor.mode.accepts action then some action else none := by
  cases mode : editor.mode with
  | viewing =>
      cases action <;> simp [View.action?, Action.wish, View.button?, View.input?, Mode.accepts,
        inputs_viewing editor mode, buttons_viewing editor mode, Caption.edit, Caption.save,
        Caption.cancel]
  | editing =>
      cases action with
      | change field value =>
          cases field <;> simp [View.action?, Action.wish, View.input?, Mode.accepts, Field.all,
            inputs_editing editor mode, Control.forField, Control.change]
      | _ =>
          simp [View.action?, Action.wish, View.button?, Mode.accepts,
            buttons_editing editor mode, Caption.edit, Caption.save, Caption.cancel]

theorem move_warns (editor : Editor) (action : Action) (entry : Log.Entry)
    (written : entry ∈ (editor.move action).logs) (warning : entry.level = .warn) :
    (editor.apply action).2.isIgnored = true := by
  simp only [move, List.mem_singleton] at written
  subst written
  cases answer : (editor.apply action).2 with
  | ignored mode => rfl
  | _ => rw [answer] at warning; cases warning

end Editor

namespace Host

def Quiet {σ : Type} (receive : Host σ) : Prop :=
  ∀ state record, ∀ entry ∈ (receive state record).logs, entry.level ≠ .warn

theorem layered_quiet {σ : Type} (screens : List String) (receive : Host σ) (quiet : Quiet receive) :
    Quiet (layered screens receive) := by
  induction screens with
  | nil => exact quiet
  | cons screen rest hypothesis =>
      intro state record entry written
      rcases List.mem_cons.mp written with own | inner
      · rw [own]
        exact Log.Level.noConfusion
      · exact hypothesis state record entry inner

theorem inbox_quiet : Quiet Inbox.receive := by
  intro inbox record entry written
  cases inbox with
  | recorder records => cases written
  | callback records => cases written
  | ledger kept =>
      have only : entry = Log.saved (kept.revision + 1) record := by
        simpa [Inbox.receive, Receipt.map, Ledger.save_logs] using written
      rw [only]
      exact Log.Level.noConfusion

end Host

namespace Session

variable {σ : Type}

theorem dispatch_warns (receive : Host σ) (session : Session σ) (action : Action) (entry : Log.Entry)
    (accepted : session.editor.mode.accepts action = true)
    (written : entry ∈ (session.dispatch receive action).2.logs) (warning : entry.level = .warn) :
    ∃ state record, entry ∈ (receive state record).logs := by
  have silent : entry ∉ (session.editor.move action).logs := by
    intro own
    have ignored := Editor.move_warns _ action entry own warning
    rw [Editor.apply_accepted, accepted] at ignored
    cases ignored
  cases handed : (session.editor.move action).handed with
  | none =>
      simp only [dispatch, watched, handed] at written
      exact absurd written silent
  | some record =>
      simp only [dispatch, watched, handed] at written
      exact ⟨session.host, record, (List.mem_append.mp written).resolve_left silent⟩

theorem browse_outcome (receive : Host σ) (session : Session σ) (script : List Request)
    (outcome : Outcome) (answered : outcome ∈ (session.browse receive script).2.filterMap id) :
    outcome.transition.isIgnored = false ∧
      ∀ entry ∈ outcome.logs, entry.level = .warn →
        ∃ state record, entry ∈ (receive state record).logs := by
  induction script generalizing session with
  | nil => cases answered
  | cons wish rest hypothesis =>
      rw [browse, serve, List.filterMap_cons] at answered
      cases found : session.view.action? wish with
      | none =>
          rw [request_heed, heed_none View.action? receive session wish found] at answered
          exact hypothesis session answered
      | some action =>
          have accepted := Editor.found_accepted session.editor wish action found
          rw [request_heed, heed_some View.action? receive session wish action found] at answered
          rcases List.mem_cons.mp answered with here | later
          · rw [here, dispatch_ignored, accepted]
            exact ⟨rfl, fun entry written warning =>
              dispatch_warns receive session action entry accepted written warning⟩
          · exact hypothesis _ later

theorem request_wish (receive : Host σ) (session : Session σ) (action : Action) :
    session.request receive action.wish =
      if session.editor.mode.accepts action then
        ((session.dispatch receive action).1, some (session.dispatch receive action).2)
      else (session, none) := by
  rw [request, view, Editor.view_action_wish]
  cases session.editor.mode.accepts action <;> rfl

theorem browse_wishes (receive : Host σ) (session : Session σ) (actions : List Action) :
    (session.browse receive (actions.map Action.wish)).1 = (session.run receive actions).1 ∧
      (session.browse receive (actions.map Action.wish)).2.filterMap id =
        (session.run receive actions).2.filter fun outcome => !outcome.transition.isIgnored := by
  induction actions generalizing session with
  | nil => exact ⟨rfl, rfl⟩
  | cons action rest hypothesis =>
      rw [List.map_cons, browse, serve, run_cons, request_wish]
      cases accepted : session.editor.mode.accepts action with
      | false =>
          rw [dispatch_refused receive session action accepted,
            List.filter_cons_of_neg (by simp [dispatch_ignored, accepted])]
          exact hypothesis session
      | true =>
          obtain ⟨reached, answers⟩ := hypothesis (session.dispatch receive action).1
          rw [List.filter_cons_of_pos (by simp [dispatch_ignored, accepted]), ← answers]
          exact ⟨reached, rfl⟩

theorem view_as_powerful_as_actions (receive : Host σ) (user : Record) (host : σ) :
    let opening := start user host
    (∀ script place wish, script[place]? = some wish →
      let before := (opening.browse receive (script.take place)).1
      let after := (opening.browse receive (script.take (place + 1))).1
      let answer := (opening.browse receive script).2[place]?
      (¬ before.view.Has wish → after = before ∧ answer = some none) ∧
      (before.view.Has wish → ∃ action outcome, before.view.action? wish = some action ∧
        before.dispatch receive action = (after, outcome) ∧ answer = some (some outcome))) ∧
    (∀ script, ∀ outcome ∈ (opening.browse receive script).2.filterMap id,
      outcome.transition.isIgnored = false ∧
      ∀ entry ∈ outcome.logs, entry.level = .warn →
        ∃ state record, entry ∈ (receive state record).logs) ∧
    (∀ screens inbox script, ∀ outcome ∈
      ((start user inbox).browse (Host.layered screens Inbox.receive) script).2.filterMap id,
        ∀ entry ∈ outcome.logs, entry.level ≠ .warn) ∧
    (∀ actions, ∃ script, ∀ (τ : Type) (other : Host τ) (state : τ),
      let asked := (start user state).browse other script
      let told := (start user state).run other actions
      asked.1 = told.1 ∧
        asked.2.filterMap id = told.2.filter fun outcome => !outcome.transition.isIgnored) ∧
    (∀ reached : Session σ, (∃ script, (opening.browse receive script).1 = reached) ↔
      ∃ actions, (opening.run receive actions).1 = reached) := by
  intro opening
  refine ⟨?_, browse_outcome receive opening, ?_, ?_, ?_⟩
  · intro script place wish asked before after answer
    obtain ⟨answered, next⟩ := serve_place (fun (session : Session σ) wish =>
      session.request receive wish) opening script place wish asked
    have nextEq : after = (before.request receive wish).1 := next
    have answerEq : answer = some (before.request receive wish).2 := answered
    constructor
    · intro absent
      have missing : before.view.action? wish = none := by
        rw [← View.action_found_iff] at absent
        simpa [Option.eq_none_iff_forall_ne_some] using absent
      rw [nextEq, answerEq, request_heed, heed_none View.action? receive before wish missing]
      exact ⟨rfl, rfl⟩
    · intro present
      obtain ⟨action, found⟩ := (View.action_found_iff _ wish).mpr present
      rw [nextEq, answerEq, request_heed, heed_some View.action? receive before wish action found]
      exact ⟨action, (before.dispatch receive action).2, found, rfl, rfl⟩
  · intro screens inbox script outcome answered entry written warning
    obtain ⟨_, foreign⟩ := browse_outcome _ _ script outcome answered
    obtain ⟨state, record, logged⟩ := foreign entry written warning
    exact Host.layered_quiet screens Inbox.receive Host.inbox_quiet state record entry logged warning
  · intro actions
    exact ⟨actions.map Action.wish, fun τ other state =>
      browse_wishes other (start user state) actions⟩
  · intro reached
    constructor
    · rintro ⟨script, same⟩
      exact ⟨_, (browse_understood receive opening script).1.symm.trans same⟩
    · rintro ⟨actions, same⟩
      exact ⟨_, (browse_wishes receive opening actions).1.trans same⟩

-- Saving before anything is open and opening what is open already find no button.
def clicking : List Request :=
  [.click Caption.save, .click Caption.edit, .type .email "x", .click Caption.edit,
    .click Caption.save]

theorem view_as_powerful_as_actions_clicking :
    let opening := start Sample.alice ([] : List Record)
    let before := (opening.browse Host.recorder (clicking.take 3)).1
    clicking[3]? = some (.click Caption.edit) ∧ ¬ before.view.Has (.click Caption.edit) ∧
      (opening.browse Host.recorder (clicking.take 4)).1 = before ∧
      (opening.browse Host.recorder clicking).2[3]? = some none ∧
      (opening.browse Host.recorder clicking).1.host = [Sample.alice.set .email "x"] ∧
      ∃ actions, (opening.run Host.recorder actions).1 =
        (opening.browse Host.recorder clicking).1 := by
  intro opening before
  obtain ⟨steps, _, _, _, reachable⟩ :=
    view_as_powerful_as_actions Host.recorder Sample.alice ([] : List Record)
  have asked : clicking[3]? = some (.click Caption.edit) := rfl
  have absent : ¬ before.view.Has (.click Caption.edit) := by decide
  obtain ⟨kept, answer⟩ := (steps clicking 3 _ asked).1 absent
  exact ⟨asked, absent, kept, answer, by decide, (reachable _).mp ⟨clicking, rfl⟩⟩

end Session

end EditableProfile

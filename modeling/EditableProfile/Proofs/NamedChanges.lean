import EditableProfile.Proofs.FieldNames
import EditableProfile.Proofs.SessionStep

set_option autoImplicit false

namespace EditableProfile

open Text

inductive Command where
  | perform (action : Action)
  | changeNamed (name value : String)
deriving DecidableEq, Repr

namespace Command

def meant? : Command → Option Action
  | .perform action => some action
  | .changeNamed name value => (Field.parse name).toOption.map fun field => .change field value

-- Each name in another spelling, and everything else as it is.
inductive Renamed : Command → Command → Prop where
  | perform (action : Action) : Renamed (.perform action) (.perform action)
  | changeNamed (first second value : String) (respelled : Respelled first second) :
      Renamed (.changeNamed first value) (.changeNamed second value)

end Command

namespace Session

variable {σ : Type}

def obey (receive : Host σ) (session : Session σ) :
    Command → Session σ × Except UnknownField Outcome
  | .perform action =>
      let step := session.dispatch receive action
      (step.1, .ok step.2)
  | .changeNamed name value => session.changeNamed receive name value

def obeyAll (receive : Host σ) :
    Session σ → List Command → Session σ × List (Except UnknownField Outcome) :=
  serve (obey receive)

def logged (answers : List (Except UnknownField Outcome)) : List Log.Entry :=
  (answers.filterMap Except.toOption).flatMap Outcome.logs

theorem logged_snoc (answers : List (Except UnknownField Outcome))
    (answer : Except UnknownField Outcome) :
    logged (answers ++ [answer]) = logged answers ++ logged [answer] := by
  simp [logged]

theorem change_named_error (receive : Host σ) (session : Session σ) (name value : String)
    (unknown : UnknownField) (strange : Field.parse name = .error unknown) :
    session.changeNamed receive name value = (session, .error unknown) := by
  simp [changeNamed, strange]

theorem change_named_ok (receive : Host σ) (session : Session σ) (name value : String)
    (field : Field) (named : Field.parse name = .ok field) :
    session.changeNamed receive name value =
      ((session.dispatch receive (.change field value)).1,
        .ok (session.dispatch receive (.change field value)).2) := by
  simp [changeNamed, named]

theorem obey_meant (receive : Host σ) (session : Session σ) (command : Command) (action : Action)
    (meant : command.meant? = some action) : session.obey receive command =
      ((session.dispatch receive action).1, .ok (session.dispatch receive action).2) := by
  cases command with
  | perform other =>
      cases meant
      rfl
  | changeNamed name value =>
      cases named : Field.parse name with
      | error unknown => simp [Command.meant?, named, Except.toOption] at meant
      | ok field =>
          have same : Action.change field value = action := by
            simpa [Command.meant?, named, Except.toOption] using meant
          rw [← same]
          exact change_named_ok receive session name value field named

theorem obey_meaningless (receive : Host σ) (session : Session σ) (command : Command)
    (meaningless : command.meant? = none) :
    ∃ unknown, session.obey receive command = (session, .error unknown) := by
  cases command with
  | perform action => cases meaningless
  | changeNamed name value =>
      cases named : Field.parse name with
      | error unknown => exact ⟨unknown, change_named_error receive session name value unknown named⟩
      | ok field => simp [Command.meant?, named, Except.toOption] at meaningless

theorem obey_all_meant (receive : Host σ) (session : Session σ) (commands : List Command) :
    (session.obeyAll receive commands).1 =
        (session.run receive (commands.filterMap Command.meant?)).1 ∧
      (session.obeyAll receive commands).2.filterMap Except.toOption =
        (session.run receive (commands.filterMap Command.meant?)).2 := by
  induction commands generalizing session with
  | nil => exact ⟨rfl, rfl⟩
  | cons command rest hypothesis =>
      rw [obeyAll, serve]
      cases meant : command.meant? with
      | none =>
          obtain ⟨unknown, refused⟩ := obey_meaningless receive session command meant
          rw [refused, List.filterMap_cons_none meant]
          exact hypothesis session
      | some action =>
          obtain ⟨reached, answers⟩ := hypothesis (session.dispatch receive action).1
          rw [obey_meant receive session command action meant, List.filterMap_cons_some meant,
            run_cons, ← answers]
          exact ⟨reached, rfl⟩

theorem obey_renamed (receive : Host σ) (session : Session σ) (first second : Command)
    (renamed : Command.Renamed first second) :
    session.obey receive first = session.obey receive second := by
  cases renamed with
  | perform action => rfl
  | changeNamed name other value respelled =>
      simp only [obey, changeNamed, Field.parse_respelled name other respelled]

theorem obey_all_renamed (receive : Host σ) (session : Session σ) (first second : List Command)
    (renamed : List.Forall₂ Command.Renamed first second) :
    session.obeyAll receive first = session.obeyAll receive second := by
  induction renamed generalizing session with
  | nil => rfl
  | cons here later hypothesis =>
      simp only [obeyAll, serve, obey_renamed receive session _ _ here] at hypothesis ⊢
      rw [hypothesis]

theorem obey_all_place (receive : Host σ) (session : Session σ) (commands : List Command)
    (place : Nat) (command : Command) (asked : commands[place]? = some command) :
    let before := session.obeyAll receive (commands.take place)
    let step := before.1.obey receive command
    (session.obeyAll receive commands).2[place]? = some step.2 ∧
      session.obeyAll receive (commands.take (place + 1)) = (step.1, before.2 ++ [step.2]) := by
  refine ⟨(serve_place (obey receive) session commands place command asked).1, ?_⟩
  rw [obeyAll, List.take_add_one, asked, serve_append]
  rfl

theorem named_place_error (receive : Host σ) (session : Session σ) (commands : List Command)
    (place : Nat) (name value : String) (asked : commands[place]? = some (.changeNamed name value))
    (unknown : UnknownField) (strange : Field.parse name = .error unknown) :
    let before := session.obeyAll receive (commands.take place)
    let after := session.obeyAll receive (commands.take (place + 1))
    (session.obeyAll receive commands).2[place]? = some (.error unknown) ∧
      after.1 = before.1 ∧ logged after.2 = logged before.2 := by
  intro before after
  obtain ⟨answered, next⟩ := obey_all_place receive session commands place _ asked
  have refused : before.1.obey receive (.changeNamed name value) = (before.1, .error unknown) :=
    change_named_error receive before.1 name value unknown strange
  rw [refused] at answered next
  have reached : after = (before.1, before.2 ++ [.error unknown]) := next
  rw [reached, logged_snoc]
  exact ⟨answered, rfl, List.append_nil _⟩

theorem named_place_ok (receive : Host σ) (session : Session σ) (commands : List Command)
    (place : Nat) (name value : String) (asked : commands[place]? = some (.changeNamed name value))
    (field : Field) (named : Field.parse name = .ok field) :
    let before := session.obeyAll receive (commands.take place)
    let after := session.obeyAll receive (commands.take (place + 1))
    let told := before.1.dispatch receive (.change field value)
    (session.obeyAll receive commands).2[place]? = some (.ok told.2) ∧
      after.1 = told.1 ∧ logged after.2 = logged before.2 ++ told.2.logs := by
  intro before after told
  obtain ⟨answered, next⟩ := obey_all_place receive session commands place _ asked
  have dispatched : before.1.obey receive (.changeNamed name value) = (told.1, .ok told.2) :=
    change_named_ok receive before.1 name value field named
  rw [dispatched] at answered next
  have reached : after = (told.1, before.2 ++ [.ok told.2]) := next
  have written : logged [.ok told.2] = told.2.logs := by simp [logged, Except.toOption]
  rw [reached, logged_snoc, written]
  exact ⟨answered, rfl, rfl⟩

theorem change_viewing (receive : Host σ) (session : Session σ)
    (viewing : session.editor.mode = .viewing) (field : Field) (value : String) :
    let told := session.dispatch receive (.change field value)
    told.1 = session ∧ told.2.transition = .ignored .viewing := by
  have refused : session.editor.mode.accepts (.change field value) = false := by
    rw [viewing]
    rfl
  refine ⟨dispatch_refused receive session _ refused, ?_⟩
  rw [dispatch_transition, Editor.apply_refused _ _ refused, viewing]

theorem named_changes_add_nothing (receive : Host σ) (session : Session σ) :
    (∀ commands place name value, commands[place]? = some (.changeNamed name value) →
      let before := session.obeyAll receive (commands.take place)
      let after := session.obeyAll receive (commands.take (place + 1))
      let answer := (session.obeyAll receive commands).2[place]?
      (∀ unknown, answer = some (.error unknown) ↔ Field.parse name = .error unknown) ∧
      (∀ unknown, Field.parse name = .error unknown →
        after.1 = before.1 ∧ logged after.2 = logged before.2) ∧
      (∀ field, Field.parse name = .ok field →
        let told := before.1.dispatch receive (.change field value)
        after.1 = told.1 ∧ answer = some (.ok told.2) ∧
          logged after.2 = logged before.2 ++ told.2.logs ∧
          (before.1.editor.mode = .viewing →
            after.1 = before.1 ∧ told.2.transition = .ignored .viewing))) ∧
    (∀ commands,
      let done := session.obeyAll receive commands
      let told := session.run receive (commands.filterMap Command.meant?)
      done.1 = told.1 ∧ done.2.filterMap Except.toOption = told.2 ∧
        logged done.2 = told.2.flatMap Outcome.logs) ∧
    (∀ first second, List.Forall₂ Command.Renamed first second →
      session.obeyAll receive first = session.obeyAll receive second) := by
  refine ⟨?_, ?_, obey_all_renamed receive session⟩
  · intro commands place name value asked before after answer
    cases named : Field.parse name with
    | error unknown =>
        obtain ⟨answered, same, silent⟩ :=
          named_place_error receive session commands place name value asked unknown named
        have told : answer = some (.error unknown) := answered
        exact ⟨fun other => by simp [told], fun _ _ => ⟨same, silent⟩, nofun⟩
    | ok field =>
        obtain ⟨answered, reached, written⟩ :=
          named_place_ok receive session commands place name value asked field named
        have told : answer = some (.ok _) := answered
        refine ⟨fun other => by simp [told], nofun, fun other same => ?_⟩
        cases same
        refine ⟨reached, answered, written, fun viewing => ?_⟩
        obtain ⟨kept, ignored⟩ := change_viewing receive before.1 viewing field value
        exact ⟨reached.trans kept, ignored⟩
  · intro commands done told
    obtain ⟨reached, answers⟩ := obey_all_meant receive session commands
    exact ⟨reached, answers, by rw [logged, answers]⟩

def naming : List Command :=
  [.changeNamed "email" "early", .perform .beginEdit, .changeNamed " NickName " "al",
    .changeNamed "\u3000eMail" "x", .perform .confirm]

theorem named_changes_add_nothing_saved :
    let session := start Sample.alice ([] : List Record)
    let reached := fun count => session.obeyAll Host.recorder (naming.take count)
    let answers := (session.obeyAll Host.recorder naming).2
    naming[0]? = some (.changeNamed "email" "early") ∧ (reached 1).1 = session ∧
      naming[2]? = some (.changeNamed " NickName " "al") ∧
      answers[2]? = some (.error ⟨"nickname"⟩) ∧ (reached 3).1 = (reached 2).1 ∧
      logged (reached 3).2 = logged (reached 2).2 ∧
      (session.obeyAll Host.recorder naming).1.host = [Sample.alice.set .email "x"] ∧
      session.obeyAll Host.recorder [.changeNamed "\u3000eMail" "x"] =
        session.obeyAll Host.recorder [.changeNamed "email " "x"] := by
  intro session reached answers
  obtain ⟨steps, whole, renamed⟩ := named_changes_add_nothing Host.recorder session
  have early : naming[0]? = some (.changeNamed "email" "early") := rfl
  have nameless : naming[2]? = some (.changeNamed " NickName " "al") := rfl
  have unknown : Field.parse " NickName " = .error ⟨"nickname"⟩ := by decide
  obtain ⟨_, _, changed⟩ := steps naming 0 _ _ early
  obtain ⟨refused, kept, _⟩ := steps naming 2 _ _ nameless
  obtain ⟨_, _, _, ignored⟩ := changed .email (by decide)
  obtain ⟨same, silent⟩ := kept _ unknown
  have respelled : Respelled "\u3000eMail" "email " := (respelled_iff _ _).mpr (by decide)
  refine ⟨early, (ignored rfl).1, nameless, (refused _).mpr unknown, same, silent, ?_, ?_⟩
  · exact (congrArg Session.host (whole naming).1).trans (by decide)
  · exact renamed _ _ (.cons (.changeNamed _ _ _ respelled) .nil)

end Session

end EditableProfile

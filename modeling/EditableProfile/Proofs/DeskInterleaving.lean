import EditableProfile.Proofs.SessionStep

/-!
Sessions before one host do not disturb each other. However their actions are interleaved, each seat
sees the run of its own actions alone, and the host receives every confirmed record once, in the order
in which all of them were confirmed.
-/

set_option autoImplicit false

namespace EditableProfile.Desk

variable {σ : Type}

def ofSeat {α : Type} (seat : Nat) (entries : List (Nat × α)) : List α :=
  entries.filterMap fun entry => if entry.1 = seat then some entry.2 else none

def transcript (receive : Host σ) (desk : Desk σ) (pairs : List (Nat × Action)) :
    List (Nat × Transition) :=
  (pairs.zip (desk.run receive pairs).2).filterMap fun entry =>
    entry.2.map fun outcome => (entry.1.1, outcome.transition)

def confirms (entries : List (Nat × Transition)) : List (Nat × Record) :=
  entries.filterMap fun entry => entry.2.confirmed?.map fun record => (entry.1, record)

theorem of_seat_own {α : Type} (seat : Nat) (item : α) (rest : List (Nat × α)) :
    ofSeat seat ((seat, item) :: rest) = item :: ofSeat seat rest := by
  simp [ofSeat]

theorem of_seat_foreign {α : Type} (seat other : Nat) (item : α) (rest : List (Nat × α))
    (different : other ≠ seat) : ofSeat seat ((other, item) :: rest) = ofSeat seat rest := by
  simp [ofSeat, different]

theorem of_seat_confirms (seat : Nat) (entries : List (Nat × Transition)) :
    ofSeat seat (confirms entries) = (ofSeat seat entries).filterMap Transition.confirmed? := by
  induction entries with
  | nil => rfl
  | cons entry rest hypothesis =>
      obtain ⟨place, transition⟩ := entry
      by_cases same : place = seat
      · subst same
        rw [of_seat_own, List.filterMap_cons, ← hypothesis]
        cases found : transition.confirmed? <;> simp [confirms, ofSeat, found]
      · rw [of_seat_foreign seat place transition rest same, ← hypothesis]
        cases found : transition.confirmed? <;> simp [confirms, ofSeat, found, same]

-- Lists that agree in the order of their seats and in what each seat holds are the same list.
theorem merge_unique {α : Type} (left right : List (Nat × α))
    (order : left.map Prod.fst = right.map Prod.fst)
    (own : ∀ seat, ofSeat seat left = ofSeat seat right) : left = right := by
  induction left generalizing right with
  | nil => exact (List.map_eq_nil_iff.mp order.symm).symm
  | cons entry rest hypothesis =>
      obtain ⟨place, item⟩ := entry
      cases right with
      | nil => simp at order
      | cons entry others =>
          obtain ⟨otherPlace, otherItem⟩ := entry
          simp only [List.map_cons, List.cons.injEq] at order
          obtain ⟨samePlace, orderRest⟩ := order
          subst samePlace
          have here := own place
          rw [of_seat_own, of_seat_own, List.cons.injEq] at here
          obtain ⟨sameItem, hereRest⟩ := here
          have ownRest : ∀ seat, ofSeat seat rest = ofSeat seat others := by
            intro seat
            by_cases same : place = seat
            · rw [← same]
              exact hereRest
            · have there := own seat
              rw [of_seat_foreign seat place _ _ same, of_seat_foreign seat place _ _ same] at there
              exact there
          rw [sameItem, hypothesis others orderRest ownRest]

theorem dispatch_empty (receive : Host σ) (desk : Desk σ) (seat : Nat) (action : Action)
    (unseated : desk.editors[seat]? = none) : desk.dispatch receive seat action = (desk, none) := by
  simp [dispatch, visit, session?, unseated]

theorem dispatch_seated (receive : Host σ) (desk : Desk σ) (seat : Nat) (action : Action)
    (editor : Editor) (seated : desk.editors[seat]? = some editor) :
    ∃ outcome, desk.dispatch receive seat action =
        (⟨desk.editors.set seat (editor.apply action).1,
          Host.deliver receive desk.host (editor.apply action).2.confirmed?.toList⟩, some outcome) ∧
      outcome.transition = (editor.apply action).2 := by
  refine ⟨(Session.dispatch receive ⟨editor, desk.host⟩ action).2, ?_,
    Session.dispatch_transition receive ⟨editor, desk.host⟩ action⟩
  simp [dispatch, visit, session?, seated, put, Session.dispatch_session]

-- The seats see their own actions and the host sees all the records, at the same time: a step at
-- one seat leaves the other editors as they are but moves the host that all of them share.
structure Woven (receive : Host σ) (desk : Desk σ) (pairs : List (Nat × Action)) (final : Desk σ)
    (entries : List (Nat × Transition)) : Prop where
  editors : ∀ seat, final.editors[seat]? =
    desk.editors[seat]?.map fun (editor : Editor) => (editor.run (ofSeat seat pairs)).1
  transitions : ∀ seat, ofSeat seat entries =
    desk.editors[seat]?.elim [] fun (editor : Editor) => (editor.run (ofSeat seat pairs)).2
  host : final.host = Host.deliver receive desk.host ((confirms entries).map Prod.snd)

theorem woven_empty (receive : Host σ) (desk final : Desk σ) (place : Nat) (action : Action)
    (rest : List (Nat × Action)) (entries : List (Nat × Transition))
    (unseated : desk.editors[place]? = none) (woven : Woven receive desk rest final entries) :
    Woven receive desk ((place, action) :: rest) final entries := by
  have skipped : ∀ seat editor, desk.editors[seat]? = some editor →
      ofSeat seat ((place, action) :: rest) = ofSeat seat rest := by
    intro seat editor seated
    apply of_seat_foreign
    intro same
    rw [same, seated] at unseated
    cases unseated
  refine ⟨fun seat => ?_, fun seat => ?_, woven.host⟩
  · rw [woven.editors seat]
    cases seated : desk.editors[seat]? with
    | none => rfl
    | some editor => rw [skipped seat editor seated]
  · rw [woven.transitions seat]
    cases seated : desk.editors[seat]? with
    | none => rfl
    | some editor => rw [skipped seat editor seated]

theorem woven_seated (receive : Host σ) (desk final : Desk σ) (place : Nat) (action : Action)
    (rest : List (Nat × Action)) (entries : List (Nat × Transition)) (editor : Editor)
    (seated : desk.editors[place]? = some editor)
    (woven : Woven receive ⟨desk.editors.set place (editor.apply action).1,
      Host.deliver receive desk.host (editor.apply action).2.confirmed?.toList⟩ rest final entries) :
    Woven receive desk ((place, action) :: rest) final
      ((place, (editor.apply action).2) :: entries) := by
  have within : place < desk.editors.length := (List.getElem?_eq_some_iff.mp seated).1
  obtain ⟨editors, transitions, host⟩ := woven
  refine ⟨fun seat => ?_, fun seat => ?_, ?_⟩
  · rw [editors seat]
    by_cases same : place = seat
    · subst same
      simp [seated, List.getElem?_set_self within, of_seat_own, Editor.run]
    · simp [List.getElem?_set_ne same, of_seat_foreign seat place action rest same]
  · by_cases same : place = seat
    · subst same
      rw [of_seat_own, transitions place]
      simp [seated, List.getElem?_set_self within, of_seat_own, Editor.run]
    · rw [of_seat_foreign seat place _ entries same, transitions seat]
      simp [List.getElem?_set_ne same, of_seat_foreign seat place action rest same]
  · rw [host, ← Host.deliver_append]
    cases found : (editor.apply action).2.confirmed? <;> simp [confirms, found]

theorem run_woven (receive : Host σ) (desk : Desk σ) (pairs : List (Nat × Action)) :
    Woven receive desk pairs (desk.run receive pairs).1 (desk.transcript receive pairs) := by
  induction pairs generalizing desk with
  | nil =>
      refine ⟨fun seat => ?_, fun seat => ?_, rfl⟩
      · cases seated : desk.editors[seat]? <;> simp [run, ofSeat, Editor.run, seated]
      · cases desk.editors[seat]? <;> rfl
  | cons pair rest hypothesis =>
      obtain ⟨place, action⟩ := pair
      cases seated : desk.editors[place]? with
      | none =>
          have idle := dispatch_empty receive desk place action seated
          have woven := woven_empty receive desk _ place action rest _ seated (hypothesis desk)
          simpa [run, transcript, idle] using woven
      | some editor =>
          obtain ⟨outcome, moved, answer⟩ := dispatch_seated receive desk place action editor seated
          have woven := woven_seated receive desk _ place action rest _ editor seated (hypothesis _)
          simpa [run, transcript, moved, answer] using woven

theorem transcript_alone (receive alone : Host Inbox) (users : List Record) (host own : Inbox)
    (pairs : List (Nat × Action)) (seat : Nat) (user : Record) (seated : users[seat]? = some user) :
    ((start users host).run receive pairs).1.editors[seat]? =
        some ((Session.start user own).run alone (ofSeat seat pairs)).1.editor ∧
      ofSeat seat ((start users host).transcript receive pairs) =
        ((Session.start user own).run alone (ofSeat seat pairs)).2.map Outcome.transition := by
  have woven := run_woven receive (start users host) pairs
  have editor : (start users host).editors[seat]? = some (Editor.start user) := by
    simp [start, seated]
  constructor
  · rw [woven.editors seat, editor, Session.run_editor]
    rfl
  · rw [woven.transitions seat, editor, Session.run_transitions]
    rfl

theorem run_decided (receive : Host σ) (desk : Desk σ) (left right : List (Nat × Action))
    (own : ∀ seat, seat < desk.editors.length → ofSeat seat left = ofSeat seat right)
    (order : (confirms (desk.transcript receive left)).map Prod.fst =
      (confirms (desk.transcript receive right)).map Prod.fst) :
    (desk.run receive left).1 = (desk.run receive right).1 := by
  have wovenLeft := run_woven receive desk left
  have wovenRight := run_woven receive desk right
  have seated : ∀ seat editor, desk.editors[seat]? = some editor →
      ofSeat seat left = ofSeat seat right :=
    fun seat editor found => own seat (List.getElem?_eq_some_iff.mp found).1
  have editors : (desk.run receive left).1.editors = (desk.run receive right).1.editors := by
    apply List.ext_getElem?
    intro seat
    rw [wovenLeft.editors seat, wovenRight.editors seat]
    cases found : desk.editors[seat]? with
    | none => rfl
    | some editor => rw [seated seat editor found]
  have transitions : ∀ seat, ofSeat seat (desk.transcript receive left) =
      ofSeat seat (desk.transcript receive right) := by
    intro seat
    rw [wovenLeft.transitions seat, wovenRight.transitions seat]
    cases found : desk.editors[seat]? with
    | none => rfl
    | some editor => rw [seated seat editor found]
  have records : confirms (desk.transcript receive left) =
      confirms (desk.transcript receive right) := by
    apply merge_unique _ _ order
    intro seat
    rw [of_seat_confirms, of_seat_confirms, transitions seat]
  have host : (desk.run receive left).1.host = (desk.run receive right).1.host := by
    rw [wovenLeft.host, wovenRight.host, records]
  cases finalLeft : (desk.run receive left).1
  cases finalRight : (desk.run receive right).1
  rw [finalLeft, finalRight] at editors host
  simp only at editors host
  rw [editors, host]

theorem interleaving_undisturbed (users : List Record) (inbox : Inbox) (reliable : inbox.Reliable)
    (pairs : List (Nat × Action)) :
    let desk := start users inbox
    let final := (desk.run Inbox.receive pairs).1
    let confirmed := confirms (desk.transcript Inbox.receive pairs)
    (∀ seat user own, users[seat]? = some user →
      let session := (Session.start user own).run Inbox.receive (ofSeat seat pairs)
      final.editors[seat]? = some session.1.editor ∧
        ofSeat seat (desk.transcript Inbox.receive pairs) = session.2.map Outcome.transition) ∧
    final.host.records = inbox.records ++ confirmed.map Prod.snd ∧
    (∀ kept, inbox = .ledger kept → ∃ last added, final.host = .ledger last ∧
      last.saves = kept.saves ++ added ∧
      added.map (fun saved => (saved.revision, saved.record)) =
        confirmed.mapIdx fun place entry => (kept.revision + place + 1, entry.2)) ∧
    (∀ others, (∀ seat, seat < users.length → ofSeat seat others = ofSeat seat pairs) →
      (confirms (desk.transcript Inbox.receive others)).map Prod.fst = confirmed.map Prod.fst →
      (desk.run Inbox.receive others).1 = final) := by
  intro desk final confirmed
  have woven := run_woven Inbox.receive desk pairs
  refine ⟨?_, ?_, ?_, ?_⟩
  · intro seat user own seated
    exact transcript_alone Inbox.receive Inbox.receive users inbox own pairs seat user seated
  · rw [← Inbox.deliver_records inbox (confirmed.map Prod.snd) reliable]
    exact congrArg Inbox.records woven.host
  · intro kept same
    subst same
    obtain ⟨added, saves, entries⟩ :=
      Ledger.deliver_adds kept (confirmed.map Prod.snd) reliable
    refine ⟨_, added, woven.host.trans (Inbox.deliver_ledger kept _), saves, ?_⟩
    rw [entries, List.mapIdx_eq_iff]
    intro place
    rw [List.getElem?_mapIdx, List.getElem?_map, Option.map_map]
    rfl
  · intro others own order
    apply run_decided Inbox.receive desk others pairs _ order
    simpa [desk, start] using own

def twoSeats : Desk Inbox :=
  start [Sample.alice, Sample.bob] (.ledger (Ledger.new (Clock.stopped Instant.epoch)))

def alternating : List (Nat × Action) :=
  [(0, .beginEdit), (1, .beginEdit), (0, .confirm), (0, .change .email ""),
    (1, .change .username "al"), (0, .beginEdit), (1, .confirm), (0, .change .email "x"),
    (0, .confirm)]

def regrouped : List (Nat × Action) :=
  [(1, .beginEdit), (1, .change .username "al"), (0, .beginEdit), (0, .confirm), (1, .confirm),
    (0, .change .email ""), (0, .beginEdit), (0, .change .email "x"), (0, .confirm)]

theorem interleaving_undisturbed_two_seats :
    twoSeats.host.Reliable ∧
      (twoSeats.run Inbox.receive alternating).1.host.records =
        [Sample.alice, Sample.bob.set .username "al", Sample.alice.set .email "x"] ∧
      (twoSeats.run Inbox.receive regrouped).1 = (twoSeats.run Inbox.receive alternating).1 := by
  have law := interleaving_undisturbed [Sample.alice, Sample.bob] twoSeats.host (fun _ => rfl)
    alternating
  refine ⟨fun _ => rfl, law.2.1.trans ?_, law.2.2.2 regrouped ?_ ?_⟩
  · decide +kernel
  · decide +kernel
  · decide +kernel

end EditableProfile.Desk

import EditableProfile.Session
import EditableProfile.Proofs.Delivery

set_option autoImplicit false

namespace EditableProfile

namespace Log

def requests (screens : List String) (record : Record) : List Entry :=
  screens.map fun screen => requested screen record

namespace Entry

def isRequest (entry : Entry) : Bool :=
  entry.level == .info && entry.message == "Profile update requested"

end Entry

def unrequested (entries : List Entry) : List Entry :=
  entries.filter fun entry => !entry.isRequest

theorem unrequested_requests (screens : List String) (record : Record) :
    unrequested (requests screens record) = [] := by
  induction screens with
  | nil => rfl
  | cons screen rest hypothesis => exact hypothesis

theorem unrequested_append (first second : List Entry) :
    unrequested (first ++ second) = unrequested first ++ unrequested second :=
  List.filter_append first second

theorem unrequested_id (entries : List Entry) (silent : ∀ entry ∈ entries, entry.isRequest = false) :
    unrequested entries = entries := by
  rw [unrequested, List.filter_eq_self]
  intro entry written
  rw [silent entry written]
  rfl

end Log

namespace Host

variable {σ : Type}

def listing (receive : Host σ) : Host (σ × List Record) := fun state record =>
  (receive state.1 record).map fun next => (next, state.2 ++ [record])

def Reserved (receive : Host σ) : Prop :=
  ∀ state record, ∀ entry ∈ (receive state record).logs, entry.isRequest = false

theorem inbox_reserved : Reserved Inbox.receive := by
  intro inbox record entry written
  cases inbox with
  | recorder records => cases written
  | callback records => cases written
  | ledger kept =>
      have only : entry = Log.saved (kept.revision + 1) record := by
        simpa [Inbox.receive, Receipt.map, Ledger.save_logs] using written
      rw [only]
      rfl

-- By induction on the screens: the first is the outermost and writes before the others.
theorem layered_receipt (screens : List String) (receive : Host σ) (state : σ) (record : Record) :
    layered screens receive state record =
      { receive state record with
        logs := Log.requests screens record ++ (receive state record).logs } := by
  induction screens with
  | nil => rfl
  | cons screen rest hypothesis =>
      change logged screen (layered rest receive) state record = _
      rw [logged, hypothesis]
      rfl

end Host

namespace Outcome

/-- The same outcome behind layers: the requests follow the session's own entry. -/
def behind (screens : List String) (outcome : Outcome) : Outcome :=
  { outcome with
    logs := outcome.logs.take 1 ++
      (outcome.transition.confirmed?.toList.flatMap (Log.requests screens) ++
        outcome.logs.drop 1) }

def unrequested (outcome : Outcome) : Outcome :=
  { outcome with logs := Log.unrequested outcome.logs }

theorem unrequested_behind (screens : List String) (outcome : Outcome) :
    (outcome.behind screens).unrequested = outcome.unrequested := by
  have requests : Log.unrequested
      (outcome.transition.confirmed?.toList.flatMap (Log.requests screens)) = [] := by
    cases outcome.transition.confirmed? with
    | none => rfl
    | some record => simpa using Log.unrequested_requests screens record
  simp only [unrequested, behind, Log.unrequested_append, requests, List.nil_append]
  rw [← Log.unrequested_append, List.take_append_drop]

end Outcome

namespace Session

variable {σ : Type}

theorem dispatch_layered (screens : List String) (receive : Host σ) (session : Session σ)
    (action : Action) : session.dispatch (Host.layered screens receive) action =
      ((session.dispatch receive action).1, (session.dispatch receive action).2.behind screens) := by
  cases handed : (session.editor.apply action).2.confirmed? with
  | none => simp [dispatch, watched, Move.handed, Editor.move, handed, Outcome.behind]
  | some record =>
      simp [dispatch, watched, Move.handed, Editor.move, handed, Outcome.behind, Host.layered_receipt]

theorem move_reserved (editor : Editor) (action : Action) :
    ∀ entry ∈ (editor.move action).logs, entry.isRequest = false := by
  intro entry written
  have only := List.mem_singleton.mp written
  rw [only]
  cases (editor.apply action).2 <;> rfl

theorem dispatch_unrequested (receive : Host σ) (session : Session σ) (action : Action)
    (reserved : Host.Reserved receive) : (session.dispatch receive action).2.unrequested =
      (session.dispatch receive action).2 := by
  have own := move_reserved session.editor action
  have silent : ∀ entry ∈ (session.dispatch receive action).2.logs, entry.isRequest = false := by
    intro entry written
    rw [dispatch, watched] at written
    cases handed : (session.editor.move action).handed with
    | none =>
        simp only [handed] at written
        exact own entry written
    | some record =>
        simp only [handed] at written
        rcases List.mem_append.mp written with here | there
        · exact own entry here
        · exact reserved session.host record entry there
  rw [Outcome.unrequested, Log.unrequested_id _ silent]

end Session

namespace Desk

variable {σ : Type}

theorem dispatch_layered (screens : List String) (receive : Host σ) (desk : Desk σ) (seat : Nat)
    (action : Action) : desk.dispatch (Host.layered screens receive) seat action =
      ((desk.dispatch receive seat action).1,
        (desk.dispatch receive seat action).2.map (Outcome.behind screens)) := by
  cases seated : desk.session? seat with
  | none => simp [dispatch, visit, seated]
  | some session => simp [dispatch, visit, seated, Session.dispatch_layered]

theorem run_layered (screens : List String) (receive : Host σ) (desk : Desk σ)
    (pairs : List (Nat × Action)) :
    (desk.run (Host.layered screens receive) pairs).1 = (desk.run receive pairs).1 ∧
      (desk.run (Host.layered screens receive) pairs).2 =
        (desk.run receive pairs).2.map (Option.map (Outcome.behind screens)) := by
  induction pairs generalizing desk with
  | nil => exact ⟨rfl, rfl⟩
  | cons pair rest hypothesis =>
      obtain ⟨final, outcomes⟩ := hypothesis (desk.dispatch receive pair.1 pair.2).1
      simp only [run, dispatch_layered, final, outcomes, List.map_cons, and_self]

theorem run_unrequested (receive : Host σ) (reserved : Host.Reserved receive) (desk : Desk σ)
    (pairs : List (Nat × Action)) :
    (desk.run receive pairs).2.map (Option.map Outcome.unrequested) =
      (desk.run receive pairs).2 := by
  induction pairs generalizing desk with
  | nil => rfl
  | cons pair rest hypothesis =>
      have here : (desk.dispatch receive pair.1 pair.2).2.map Outcome.unrequested =
          (desk.dispatch receive pair.1 pair.2).2 := by
        cases seated : desk.session? pair.1 with
        | none => simp [dispatch, visit, seated]
        | some session => simp [dispatch, visit, seated, Session.dispatch_unrequested, reserved]
      simp only [run, List.map_cons, here, hypothesis]

theorem layers_transparent (screens : List String) :
    (∀ (σ : Type) (receive : Host σ) (state : σ) (calls : List Record) (record : Record),
      let bare := receive state record
      let receipt := Host.layered screens (Host.listing receive) (state, calls) record
      receipt.state = (bare.state, calls ++ [record]) ∧ receipt.completed = bare.completed ∧
        receipt.logs = screens.map (fun screen => ⟨.info, "Profile update requested",
          [("host", screen), ("username", record.username), ("email", record.email),
            ("avatar", record.avatar)]⟩) ++ bare.logs) ∧
    (∀ (σ : Type) (receive : Host σ) (desk : Desk σ) (pairs : List (Nat × Action)),
      let bare := desk.run receive pairs
      let stacked := desk.run (Host.layered screens receive) pairs
      stacked.1 = bare.1 ∧ stacked.2 = bare.2.map (Option.map (Outcome.behind screens))) ∧
    (∀ (desk : Desk Inbox) (pairs : List (Nat × Action)),
      let bare := desk.run Inbox.receive pairs
      let stacked := desk.run (Host.layered screens Inbox.receive) pairs
      stacked.1 = bare.1 ∧ stacked.2.map (Option.map Outcome.unrequested) = bare.2) := by
  refine ⟨?_, ?_, ?_⟩
  · intro σ receive state calls record bare receipt
    have same := Host.layered_receipt screens (Host.listing receive) (state, calls) record
    refine ⟨?_, ?_, ?_⟩
    · exact congrArg Receipt.state same
    · exact congrArg Receipt.completed same
    · exact congrArg Receipt.logs same
  · intro σ receive desk pairs bare stacked
    exact run_layered screens receive desk pairs
  · intro desk pairs bare stacked
    obtain ⟨final, outcomes⟩ := run_layered screens Inbox.receive desk pairs
    refine ⟨final, ?_⟩
    calc stacked.2.map (Option.map Outcome.unrequested)
        = bare.2.map (Option.map Outcome.unrequested) := by
          rw [outcomes, List.map_map]
          apply List.map_congr_left
          intro answer _
          cases answer with
          | none => rfl
          | some outcome => exact congrArg some (outcome.unrequested_behind screens)
      _ = bare.2 := run_unrequested Inbox.receive Host.inbox_reserved desk pairs

theorem layers_transparent_two_screens :
    let opening := start [Sample.alice] (.ledger (Ledger.new (Clock.stopped Instant.epoch)))
    let pairs := [(0, .beginEdit), (0, .change .email "x"), (0, .confirm)]
    let stacked := opening.run (Host.layered ["outer", ""] Inbox.receive) pairs
    let last := fun answers : List (Option Outcome) => answers[2]?.join.map Outcome.logs
    let requested := fun screen => (⟨.info, "Profile update requested", [("host", screen),
      ("username", "alice"), ("email", "x"), ("avatar", "http://x/a.png")]⟩ : Log.Entry)
    let forwarding := (⟨.debug, "Forwarding saved profile", [("user", "alice <x>")]⟩ : Log.Entry)
    let saved := (⟨.info, "Profile saved", [("revision", "1"), ("user", "alice <x>")]⟩ : Log.Entry)
    stacked.1.host.records = [Sample.alice.set .email "x"] ∧
      last stacked.2 = some [forwarding, requested "outer", requested "", saved] ∧
      last (stacked.2.map (Option.map Outcome.unrequested)) = some [forwarding, saved] := by
  intro opening pairs stacked last requested forwarding saved
  obtain ⟨_, general, erased⟩ := layers_transparent ["outer", ""]
  obtain ⟨final, outcomes⟩ := general Inbox Inbox.receive opening pairs
  refine ⟨?_, ?_, ?_⟩
  · exact (congrArg (fun desk : Desk Inbox => desk.host.records) final).trans (by decide)
  · exact (congrArg last outcomes).trans (by decide)
  · exact (congrArg last (erased opening pairs).2).trans (by decide)

end Desk

end EditableProfile

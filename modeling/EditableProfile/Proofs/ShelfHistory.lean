import EditableProfile.Proofs.Delivery
import EditableProfile.Proofs.Serving
import Mathlib.Data.List.Induction

/-!
All handles on a ledger read one history, which is the list of the saves whose clock did not fail. A
failed save changes nothing that can be read, and the number it announced goes to the next save.
-/

set_option autoImplicit false

namespace EditableProfile

namespace Ledger

/-- What becomes of attempts to save, the n-th of which takes the n-th reading of the clock. -/
def successes (clock : Clock) (records : List Record) : List (Record × Instant) :=
  (records.mapIdx fun place record => (record, clock.reading (clock.taken + place))).filterMap
    fun attempt => attempt.2.map fun instant => (attempt.1, instant)

def numbered (kept : List (Record × Instant)) : List Saved :=
  kept.mapIdx fun place success => ⟨place + 1, success.1, success.2⟩

theorem successes_snoc (clock : Clock) (records : List Record) (record : Record) :
    successes clock (records ++ [record]) = successes clock records ++
      ((clock.reading (clock.taken + records.length)).map fun instant => (record, instant)).toList := by
  cases reading : clock.reading (clock.taken + records.length) <;> simp [successes, reading]

theorem successes_grow (clock : Clock) (first rest : List Record) :
    successes clock first <+: successes clock (first ++ rest) := by
  rw [successes, successes, List.mapIdx_append, List.filterMap_append]
  exact List.prefix_append _ _

theorem numbered_grows (first second : List (Record × Instant)) (grown : first <+: second) :
    numbered first <+: numbered second := by
  obtain ⟨rest, split⟩ := grown
  rw [← split, numbered, numbered, List.mapIdx_append]
  exact List.prefix_append _ _

theorem deliver_new (clock : Clock) (records : List Record) :
    (Host.deliver save (new clock) records).saves = numbered (successes clock records) ∧
      (Host.deliver save (new clock) records).clock =
        { clock with taken := clock.taken + records.length } := by
  induction records using List.reverseRecOn with
  | nil => exact ⟨rfl, rfl⟩
  | append_singleton records record hypothesis =>
      obtain ⟨saves, clockEq⟩ := hypothesis
      have last : Host.deliver save (new clock) (records ++ [record]) =
          (save (Host.deliver save (new clock) records) record).state :=
        Host.deliver_append save (new clock) records [record]
      rw [last, save_saves, save_clock, successes_snoc]
      refine ⟨?_, by simp [clockEq, Clock.next, Nat.add_assoc]⟩
      cases reading : clock.reading (clock.taken + records.length) <;>
        simp [added?, revision, clockEq, saves, reading, numbered]

end Ledger

namespace Shelf

def single (ledger : Ledger) (count : Nat) : Shelf := ⟨[ledger], List.replicate count 0⟩

theorem single_handle (ledger : Ledger) (count handle : Nat) (given : handle < count) :
    (single ledger count).handles[handle]? = some 0 := by
  simp [single, given]

theorem single_ledger (ledger : Ledger) (count handle : Nat) (given : handle < count) :
    (single ledger count).ledger? handle = some ledger := by
  rw [ledger?, single_handle ledger count handle given]
  rfl

theorem single_save (ledger : Ledger) (count handle : Nat) (record : Record)
    (given : handle < count) : (single ledger count).save handle record =
      (single (ledger.save record).state count, some (ledger.save record)) := by
  rw [save, single_handle ledger count handle given]
  rfl

theorem single_share (ledger : Ledger) (count handle : Nat) (given : handle < count) :
    (single ledger count).share handle = single ledger (count + 1) := by
  rw [share, single_handle ledger count handle given, single, single, List.replicate_succ']
  rfl

namespace Call

def handle : Call → Nat
  | .save handle _ => handle
  | .share handle => handle
  | .revision handle => handle
  | .latest handle => handle
  | .history handle => handle

def record? : Call → Option Record
  | .save _ record => some record
  | _ => none

def isShare : Call → Bool
  | .share _ => true
  | _ => false

end Call

def Reply.isSaved : Reply → Bool
  | .saved _ completed => completed
  | _ => false

def attempts (calls : List Call) : List Record := calls.filterMap Call.record?

def handleCount (calls : List Call) : Nat := 1 + calls.countP Call.isShare

/-- Handles are used only after they were given out. -/
def Issued (calls : List Call) : Prop :=
  ∀ place (within : place < calls.length), calls[place].handle < handleCount (calls.take place)

instance (calls : List Call) : Decidable (Issued calls) :=
  inferInstanceAs (Decidable (∀ place (within : place < calls.length),
    calls[place].handle < handleCount (calls.take place)))

def history (clock : Clock) (calls : List Call) : List Saved :=
  Ledger.numbered (Ledger.successes clock (attempts calls))

def reading (clock : Clock) (calls : List Call) : Option Instant :=
  clock.reading (clock.taken + (attempts calls).length)

def expected (clock : Clock) (calls : List Call) : Call → Reply
  | .save _ record =>
      .saved [⟨.info, "Profile saved",
        [("revision", toString ((history clock calls).length + 1)),
          ("user", record.username ++ " <" ++ record.email ++ ">")]⟩] (reading clock calls).isSome
  | .share _ => .shared (handleCount calls)
  | .revision _ => .revision (history clock calls).length
  | .latest _ => .latest (history clock calls).getLast?
  | .history _ => .history (history clock calls)

theorem attempts_snoc (calls : List Call) (call : Call) :
    attempts (calls ++ [call]) = attempts calls ++ call.record?.toList := by
  cases found : call.record? <;> simp [attempts, found]

theorem handle_count_snoc (calls : List Call) (call : Call) :
    handleCount (calls ++ [call]) = handleCount calls + if call.isShare then 1 else 0 := by
  cases shares : call.isShare <;> simp [handleCount, shares, Nat.add_assoc]

def settled (clock : Clock) (calls : List Call) : Ledger :=
  Host.deliver Ledger.save (Ledger.new clock) (attempts calls)

theorem settled_saves (clock : Clock) (calls : List Call) :
    (settled clock calls).saves = history clock calls :=
  (Ledger.deliver_new clock (attempts calls)).1

theorem settled_reading (clock : Clock) (calls : List Call) :
    (settled clock calls).clock.reading (settled clock calls).clock.taken = reading clock calls := by
  rw [settled, (Ledger.deliver_new clock (attempts calls)).2]
  rfl

theorem settled_snoc (clock : Clock) (calls : List Call) (call : Call) :
    settled clock (calls ++ [call]) =
      Host.deliver Ledger.save (settled clock calls) call.record?.toList := by
  rw [settled, attempts_snoc, Host.deliver_append]
  rfl

theorem call_single (clock : Clock) (calls : List Call) (call : Call)
    (given : call.handle < handleCount calls) :
    (single (settled clock calls) (handleCount calls)).call call =
      (single (settled clock (calls ++ [call])) (handleCount (calls ++ [call])),
        some (expected clock calls call)) := by
  have saves := settled_saves clock calls
  have found := single_ledger (settled clock calls) (handleCount calls) call.handle given
  rw [settled_snoc, handle_count_snoc]
  cases call with
  | save handle record =>
      have step := single_save (settled clock calls) (handleCount calls) handle record given
      have logs := Ledger.save_logs (settled clock calls) record
      have completed := Ledger.save_completed (settled clock calls) record
      rw [Ledger.revision, saves] at logs
      rw [settled_reading] at completed
      rw [Shelf.call, step]
      simp only [Option.map_some, logs, completed]
      rfl
  | share handle =>
      have named := single_handle (settled clock calls) (handleCount calls) handle given
      rw [Shelf.call, single_share _ _ handle given, named]
      simp [Call.record?, Call.isShare, expected, single, Host.deliver]
  | revision handle =>
      simp only [Call.handle] at found
      rw [Shelf.call, found]
      simp [Call.record?, Call.isShare, expected, Host.deliver, Ledger.revision, saves]
  | latest handle =>
      simp only [Call.handle] at found
      rw [Shelf.call, found]
      simp [Call.record?, Call.isShare, expected, Host.deliver, Ledger.latest?, saves]
  | history handle =>
      simp only [Call.handle] at found
      rw [Shelf.call, found]
      simp [Call.record?, Call.isShare, expected, Host.deliver, saves]

theorem run_serve (shelf : Shelf) (calls : List Call) :
    shelf.run calls = serve Shelf.call shelf calls := by
  induction calls generalizing shelf with
  | nil => rfl
  | cons call rest hypothesis => simp only [run, serve, hypothesis]

theorem run_append (shelf : Shelf) (first second : List Call) :
    shelf.run (first ++ second) =
      (((shelf.run first).1.run second).1, (shelf.run first).2 ++ ((shelf.run first).1.run second).2) := by
  simp only [run_serve, serve_append]

theorem run_length (shelf : Shelf) (calls : List Call) :
    (shelf.run calls).2.length = calls.length := by
  rw [run_serve, serve_length]

-- On the whole list: after the first calls comes the next one, and its handle is known by then.
theorem run_take (clock : Clock) (calls : List Call) (issued : Issued calls) (count : Nat)
    (within : count ≤ calls.length) : ((new clock).run (calls.take count)).1 =
      single (settled clock (calls.take count)) (handleCount (calls.take count)) := by
  induction count with
  | zero => rfl
  | succ count hypothesis =>
      have reached := hypothesis (Nat.le_of_succ_le within)
      rw [← List.take_append_getElem within, run_append, reached]
      simp only [run]
      rw [call_single clock _ _ (issued count within)]

theorem reply_at (clock : Clock) (calls : List Call) (issued : Issued calls) (place : Nat)
    (within : place < calls.length) : ((new clock).run calls).2[place]? =
      some (some (expected clock (calls.take place) calls[place])) := by
  have split : calls = calls.take place ++ calls[place] :: calls.drop (place + 1) := by
    rw [List.getElem_cons_drop, List.take_append_drop]
  have before : ((new clock).run (calls.take place)).2.length = place := by
    rw [run_length, List.length_take, Nat.min_eq_left (Nat.le_of_lt within)]
  have reached := run_take clock calls issued place (Nat.le_of_lt within)
  have answer := call_single clock (calls.take place) calls[place] (issued place within)
  conv_lhs => rw [split, run_append]
  rw [List.getElem?_append_right (Nat.le_of_eq before), before, Nat.sub_self, reached]
  simp only [run, answer]
  rfl

theorem history_unasked (clock : Clock) (calls : List Call) (call : Call)
    (silent : call.record? = none) : history clock (calls ++ [call]) = history clock calls := by
  rw [history, attempts_snoc, silent, Option.toList_none, List.append_nil]
  rfl

theorem history_failed (clock : Clock) (calls : List Call) (handle : Nat) (record : Record)
    (failed : reading clock calls = none) :
    history clock (calls ++ [.save handle record]) = history clock calls := by
  have refused : clock.reading (clock.taken + (attempts calls).length) = none := failed
  rw [history, attempts_snoc, Call.record?, Option.toList_some, Ledger.successes_snoc, refused]
  rw [Option.map_none, Option.toList_none, List.append_nil]
  rfl

theorem history_kept (clock : Clock) (calls : List Call) (call : Call)
    (silent : (expected clock calls call).isSaved = false) :
    history clock (calls ++ [call]) = history clock calls := by
  cases call with
  | save handle record =>
      have failed : reading clock calls = none := by
        simpa [expected, Reply.isSaved] using silent
      exact history_failed clock calls handle record failed
  | share handle => exact history_unasked clock calls _ rfl
  | revision handle => exact history_unasked clock calls _ rfl
  | latest handle => exact history_unasked clock calls _ rfl
  | history handle => exact history_unasked clock calls _ rfl

theorem history_added (clock : Clock) (calls : List Call) (handle : Nat) (record : Record)
    (instant : Instant) (found : reading clock calls = some instant) :
    history clock (calls ++ [.save handle record]) =
      history clock calls ++ [⟨(history clock calls).length + 1, record, instant⟩] := by
  simp only [reading] at found
  simp [history, attempts_snoc, Call.record?, Ledger.successes_snoc, found, Ledger.numbered]

theorem history_grows (clock : Clock) (first rest : List Call) :
    history clock first <+: history clock (first ++ rest) := by
  rw [history, history, attempts, attempts, List.filterMap_append]
  exact Ledger.numbered_grows _ _ (Ledger.successes_grow clock _ _)

theorem history_quiet (clock : Clock) (calls : List Call) (start next : Nat) (order : start ≤ next)
    (within : next ≤ calls.length)
    (quiet : ∀ place (inside : place < calls.length), start ≤ place → place < next →
      (expected clock (calls.take place) calls[place]).isSaved = false) :
    history clock (calls.take next) = history clock (calls.take start) := by
  induction order with
  | refl => rfl
  | @step next order hypothesis =>
      have earlier := hypothesis (Nat.le_of_succ_le within) fun place inside after before =>
        quiet place inside after (Nat.lt_succ_of_lt before)
      rw [← earlier, ← List.take_append_getElem within]
      exact history_kept clock _ _ (quiet next within order (Nat.lt_succ_self next))

theorem save_answered (clock : Clock) (calls : List Call) (issued : Issued calls)
    (place handle : Nat) (record : Record) (asked : calls[place]? = some (.save handle record)) :
    ((new clock).run calls).2[place]? = some (some (.saved [⟨.info, "Profile saved",
      [("revision", toString ((history clock (calls.take place)).length + 1)),
        ("user", record.username ++ " <" ++ record.email ++ ">")]⟩]
      (reading clock (calls.take place)).isSome)) := by
  obtain ⟨within, same⟩ := List.getElem?_eq_some_iff.mp asked
  have answer := reply_at clock calls issued place within
  rw [same] at answer
  exact answer

theorem saved_reply (clock : Clock) (calls : List Call) (issued : Issued calls) (place handle : Nat)
    (record : Record) (logs : List Log.Entry) (completed : Bool)
    (asked : calls[place]? = some (.save handle record))
    (answered : ((new clock).run calls).2[place]? = some (some (.saved logs completed))) :
    logs = [⟨.info, "Profile saved",
        [("revision", toString ((history clock (calls.take place)).length + 1)),
          ("user", record.username ++ " <" ++ record.email ++ ">")]⟩] ∧
      completed = (reading clock (calls.take place)).isSome := by
  have answer := save_answered clock calls issued place handle record asked
  rw [answered] at answer
  simpa using answer

theorem failed_save_keeps (clock : Clock) (calls : List Call) (issued : Issued calls)
    (place handle : Nat) (record : Record) (logs : List Log.Entry)
    (asked : calls[place]? = some (.save handle record))
    (answered : ((new clock).run calls).2[place]? = some (some (.saved logs false))) :
    history clock (calls.take (place + 1)) = history clock (calls.take place) := by
  obtain ⟨within, same⟩ := List.getElem?_eq_some_iff.mp asked
  have failed := (saved_reply clock calls issued place handle record logs false asked answered).2
  rw [← List.take_append_getElem within, same]
  exact history_kept clock _ _ failed.symm

theorem next_save_takes_number (clock : Clock) (calls : List Call) (issued : Issued calls)
    (failed next handle other : Nat) (record text : Record) (logs later : List Log.Entry)
    (order : failed < next) (asked : calls[failed]? = some (.save handle record))
    (answered : ((new clock).run calls).2[failed]? = some (some (.saved logs false)))
    (between : ∀ place reply, failed < place → place < next →
      ((new clock).run calls).2[place]? = some (some reply) → reply.isSaved = false)
    (askedNext : calls[next]? = some (.save other text))
    (answeredNext : ((new clock).run calls).2[next]? = some (some (.saved later true))) :
    ∃ announced instant, logs = [⟨.info, "Profile saved", [("revision", toString announced),
        ("user", record.username ++ " <" ++ record.email ++ ">")]⟩] ∧
      reading clock (calls.take next) = some instant ∧
      history clock (calls.take (next + 1)) =
        history clock (calls.take failed) ++ [⟨announced, text, instant⟩] := by
  obtain ⟨within, same⟩ := List.getElem?_eq_some_iff.mp askedNext
  have first := saved_reply clock calls issued failed handle record logs false asked answered
  have second := saved_reply clock calls issued next other text later true askedNext answeredNext
  obtain ⟨instant, found⟩ := Option.isSome_iff_exists.mp second.2.symm
  have quiet : history clock (calls.take next) = history clock (calls.take failed) := by
    rw [← failed_save_keeps clock calls issued failed handle record logs asked answered]
    apply history_quiet clock calls (failed + 1) next order (Nat.le_of_lt within)
    intro place inside after before
    exact between place _ after before (reply_at clock calls issued place inside)
  refine ⟨_, instant, first.1, found, ?_⟩
  rw [← List.take_append_getElem within, same, history_added clock _ other text instant found, quiet]

theorem handles_share_history (clock : Clock) (calls : List Call) (issued : Issued calls) :
    let replies := ((new clock).run calls).2
    let past := fun count => history clock (calls.take count)
    (∀ place (within : place < calls.length),
      replies[place]? = some (some (expected clock (calls.take place) calls[place]))) ∧
    (∀ (place handle : Nat) (record : Record), calls[place]? = some (.save handle record) →
      replies[place]? = some (some (.saved [⟨.info, "Profile saved",
        [("revision", toString ((past place).length + 1)),
          ("user", record.username ++ " <" ++ record.email ++ ">")]⟩]
        (reading clock (calls.take place)).isSome))) ∧
    (∀ count handle, count ≤ calls.length → handle < handleCount (calls.take count) →
      ∃ ledger, ((new clock).run (calls.take count)).1.ledger? handle = some ledger ∧
        ledger.saves = past count ∧ ledger.revision = (past count).length ∧
        ledger.latest? = (past count).getLast?) ∧
    (∀ (place : Nat) (saved : Saved), (history clock calls)[place]? = some saved ↔ ∃ record instant,
      (Ledger.successes clock (attempts calls))[place]? = some (record, instant) ∧
        saved = ⟨place + 1, record, instant⟩) ∧
    (∀ place handle record logs, calls[place]? = some (.save handle record) →
      replies[place]? = some (some (.saved logs false)) → past (place + 1) = past place) ∧
    (∀ failed next handle other record text logs later, failed < next →
      calls[failed]? = some (.save handle record) →
      replies[failed]? = some (some (.saved logs false)) →
      (∀ place reply, failed < place → place < next →
        replies[place]? = some (some reply) → reply.isSaved = false) →
      calls[next]? = some (.save other text) → replies[next]? = some (some (.saved later true)) →
      ∃ announced instant, logs = [⟨.info, "Profile saved", [("revision", toString announced),
          ("user", record.username ++ " <" ++ record.email ++ ">")]⟩] ∧
        reading clock (calls.take next) = some instant ∧
        past (next + 1) = past failed ++ [⟨announced, text, instant⟩]) ∧
    (∀ earlier later, earlier ≤ later → past earlier <+: past later) := by
  intro replies past
  refine ⟨reply_at clock calls issued, save_answered clock calls issued, ?_, ?_,
    failed_save_keeps clock calls issued, ?_, ?_⟩
  · intro count handle within given
    have saves := settled_saves clock (calls.take count)
    refine ⟨settled clock (calls.take count), ?_, saves, ?_, ?_⟩
    · rw [run_take clock calls issued count within]
      exact single_ledger _ _ handle given
    · rw [Ledger.revision, saves]
    · rw [Ledger.latest?, saves]
  · intro place saved
    rw [history, Ledger.numbered, List.getElem?_mapIdx, Option.map_eq_some_iff, Prod.exists]
    simp only [eq_comm]
  · intro failed next handle other record text logs later order asked answered between
    exact next_save_takes_number clock calls issued failed next handle other record text logs later
      order asked answered between
  · intro earlier later order
    have split := List.take_append_drop earlier (calls.take later)
    rw [List.take_take, Nat.min_eq_left order] at split
    change history clock (calls.take earlier) <+: history clock (calls.take later)
    rw [← split]
    exact history_grows clock _ _

-- Fails the first time and stands still afterwards.
def faltering : Clock := Clock.ofReadings [none, some Instant.epoch]

-- A handle, a handle on that handle, and saves through both.
def threeHandles : List Call :=
  [.share 0, .share 1, .save 2 Sample.alice, .history 0, .save 1 Sample.bob, .latest 0, .revision 2]

theorem handles_share_history_three_handles :
    let replies := ((new faltering).run threeHandles).2
    Issued threeHandles ∧
      replies[2]? = some (some (.saved [⟨.info, "Profile saved",
        [("revision", "1"), ("user", "alice <alice@example.com>")]⟩] false)) ∧
      replies[3]? = some (some (.history [])) ∧
      replies[5]? = some (some (.latest (some ⟨1, Sample.bob, Instant.epoch⟩))) ∧
      history faltering (threeHandles.take 3) <+: history faltering (threeHandles.take 5) := by
  intro replies
  have issued : Issued threeHandles := by decide
  obtain ⟨answers, saves, _, _, _, _, grows⟩ := handles_share_history faltering threeHandles issued
  refine ⟨issued, ?_, ?_, ?_, grows 3 5 (by decide)⟩
  · exact (saves 2 2 Sample.alice rfl).trans (by decide +kernel)
  · exact (answers 3 (by decide)).trans (by decide +kernel)
  · exact (answers 5 (by decide)).trans (by decide +kernel)

end Shelf

end EditableProfile

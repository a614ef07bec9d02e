import EditableProfile.Inbox

set_option autoImplicit false

namespace EditableProfile

namespace Host

variable {σ : Type}

def deliver (receive : Host σ) (host : σ) (records : List Record) : σ :=
  records.foldl (fun host record => (receive host record).state) host

theorem deliver_append (receive : Host σ) (host : σ) (first second : List Record) :
    deliver receive host (first ++ second) = deliver receive (deliver receive host first) second :=
  List.foldl_append

end Host

namespace Ledger

def added? (ledger : Ledger) (record : Record) : Option Saved :=
  (ledger.clock.reading ledger.clock.taken).map fun instant => ⟨ledger.revision + 1, record, instant⟩

theorem save_saves (ledger : Ledger) (record : Record) :
    (ledger.save record).state.saves = ledger.saves ++ (ledger.added? record).toList := by
  cases reading : ledger.clock.reading ledger.clock.taken <;>
    simp [save, saves, revision, added?, Clock.next, reading, Lock.recover_guarded]

theorem save_clock (ledger : Ledger) (record : Record) :
    (ledger.save record).state.clock = ledger.clock.next.2 := by
  cases reading : ledger.clock.reading ledger.clock.taken <;> simp [save, Clock.next, reading]

theorem save_logs (ledger : Ledger) (record : Record) :
    (ledger.save record).logs = [Log.saved (ledger.revision + 1) record] := by
  cases reading : ledger.clock.reading ledger.clock.taken <;>
    simp [save, saves, revision, Clock.next, reading]

theorem save_completed (ledger : Ledger) (record : Record) :
    (ledger.save record).completed = (ledger.clock.reading ledger.clock.taken).isSome := by
  cases reading : ledger.clock.reading ledger.clock.taken <;> simp [save, Clock.next, reading]

def Reliable (ledger : Ledger) : Prop := ∀ n, (ledger.clock.reading n).isSome

theorem save_reliable (ledger : Ledger) (record : Record) (reliable : ledger.Reliable) :
    (ledger.save record).state.Reliable := by
  intro n
  rw [save_clock]
  exact reliable n

theorem save_adds (ledger : Ledger) (record : Record) (reliable : ledger.Reliable) :
    ∃ instant, (ledger.save record).state.saves =
      ledger.saves ++ [⟨ledger.revision + 1, record, instant⟩] := by
  obtain ⟨instant, reading⟩ := Option.isSome_iff_exists.mp (reliable ledger.clock.taken)
  refine ⟨instant, ?_⟩
  rw [save_saves, added?, reading]
  rfl

theorem deliver_adds (ledger : Ledger) (records : List Record) (reliable : ledger.Reliable) :
    ∃ added, (Host.deliver save ledger records).saves = ledger.saves ++ added ∧
      added.map (fun saved => (saved.revision, saved.record)) =
        records.mapIdx fun place record => (ledger.revision + place + 1, record) := by
  induction records generalizing ledger with
  | nil => exact ⟨[], (List.append_nil _).symm, rfl⟩
  | cons record rest hypothesis =>
      obtain ⟨instant, saves⟩ := save_adds ledger record reliable
      obtain ⟨added, later, entries⟩ := hypothesis _ (save_reliable ledger record reliable)
      have revision : (ledger.save record).state.revision = ledger.revision + 1 := by
        rw [Ledger.revision, saves, List.length_append]
        rfl
      refine ⟨⟨ledger.revision + 1, record, instant⟩ :: added, ?_, ?_⟩
      · rw [saves, List.append_assoc] at later
        exact later
      · rw [List.map_cons, entries, List.mapIdx_cons]
        simp only [revision, Nat.add_assoc, Nat.add_comm 1]

end Ledger

namespace Inbox

def Reliable : Inbox → Prop
  | .ledger kept => kept.Reliable
  | _ => True

theorem receive_reliable (inbox : Inbox) (record : Record) (reliable : inbox.Reliable) :
    (receive inbox record).state.Reliable := by
  cases inbox with
  | recorder records => trivial
  | callback records => trivial
  | ledger kept => exact Ledger.save_reliable kept record reliable

theorem receive_records (inbox : Inbox) (record : Record) (reliable : inbox.Reliable) :
    (receive inbox record).state.records = inbox.records ++ [record] := by
  cases inbox with
  | recorder old => rfl
  | callback old => rfl
  | ledger kept =>
      obtain ⟨instant, saves⟩ := Ledger.save_adds kept record reliable
      simp only [receive, Receipt.map, records, saves, List.map_append]
      rfl

theorem deliver_records (inbox : Inbox) (list : List Record) (reliable : inbox.Reliable) :
    (Host.deliver receive inbox list).records = inbox.records ++ list := by
  induction list generalizing inbox with
  | nil => simp [Host.deliver]
  | cons record rest hypothesis =>
      have later := hypothesis _ (receive_reliable inbox record reliable)
      rw [receive_records inbox record reliable, List.append_assoc] at later
      exact later

theorem deliver_ledger (kept : Ledger) (list : List Record) :
    Host.deliver receive (.ledger kept) list = .ledger (Host.deliver Ledger.save kept list) := by
  induction list generalizing kept with
  | nil => rfl
  | cons record rest hypothesis => exact hypothesis (kept.save record).state

end Inbox

end EditableProfile

import EditableProfile.Host
import EditableProfile.Time
import EditableProfile.Wire.Record

/-!
A ledger of saved records, numbered from one and stamped by a clock. A save whose clock fails leaves
the saves as they were, so that its number goes to the next save.
-/

set_option autoImplicit false

namespace EditableProfile

structure Saved where
  revision : Nat
  record : Record
  savedAt : Instant
deriving DecidableEq, Repr

namespace Saved

open Json

def toValue (saved : Saved) : Value :=
  .object [("revision", .number (.integer saved.revision)), ("record", saved.record.toValue),
    ("saved_at", .string saved.savedAt.text)]

def json (saved : Saved) : String := saved.toValue.text

end Saved

-- A lock is poisoned by a holder that breaks off; what it guards can be had all the same.
structure Lock (α : Type) where
  guarded : α
  poisoned : Bool
deriving DecidableEq, Repr

namespace Lock

variable {α : Type}

def take (lock : Lock α) : Except α α :=
  if lock.poisoned then .error lock.guarded else .ok lock.guarded

def recover (lock : Lock α) : α :=
  match lock.take with
  | .ok guarded => guarded
  | .error guarded => guarded

theorem recover_guarded (lock : Lock α) : lock.recover = lock.guarded := by
  rcases lock with ⟨guarded, poisoned⟩
  cases poisoned <;> rfl

end Lock

structure Ledger where
  lock : Lock (List Saved)
  clock : Clock

namespace Ledger

def new (clock : Clock) : Ledger := ⟨⟨[], false⟩, clock⟩

def saves (ledger : Ledger) : List Saved := ledger.lock.recover

def revision (ledger : Ledger) : Nat := ledger.saves.length

def latest? (ledger : Ledger) : Option Saved := ledger.saves.getLast?

def describe (ledger : Ledger) : String :=
  "InMemoryProfileStore \x7b saves: " ++ toString ledger.revision ++ " \x7d"

-- The save is announced in the log before the clock is read, and the lock is held meanwhile.
def save : Host Ledger := fun ledger record =>
  let saves := ledger.lock.recover
  let revision := saves.length + 1
  let reading := ledger.clock.next
  let logs := [Log.saved revision record]
  match reading.1 with
  | some instant =>
      let added := { ledger.lock with guarded := saves ++ [⟨revision, record, instant⟩] }
      ⟨⟨added, reading.2⟩, logs, true⟩
  | none => ⟨⟨{ ledger.lock with poisoned := true }, reading.2⟩, logs, false⟩

end Ledger

-- Ledgers and the handles on them; several handles may share one ledger.
structure Shelf where
  ledgers : List Ledger
  handles : List Nat

namespace Shelf

def new (clock : Clock) : Shelf := ⟨[Ledger.new clock], [0]⟩

def ledger? (shelf : Shelf) (handle : Nat) : Option Ledger :=
  shelf.handles[handle]?.bind fun place => shelf.ledgers[place]?

def share (shelf : Shelf) (handle : Nat) : Shelf :=
  { shelf with handles := shelf.handles ++ shelf.handles[handle]?.toList }

def add (shelf : Shelf) (clock : Clock) : Shelf :=
  ⟨shelf.ledgers ++ [Ledger.new clock], shelf.handles ++ [shelf.ledgers.length]⟩

def save (shelf : Shelf) (handle : Nat) (record : Record) : Shelf × Option (Receipt Ledger) :=
  match shelf.handles[handle]? with
  | none => (shelf, none)
  | some place =>
      match shelf.ledgers[place]? with
      | none => (shelf, none)
      | some ledger =>
          let receipt := ledger.save record
          ({ shelf with ledgers := shelf.ledgers.set place receipt.state }, some receipt)

inductive Call where
  | save (handle : Nat) (record : Record)
  | share (handle : Nat)
  | revision (handle : Nat)
  | latest (handle : Nat)
  | history (handle : Nat)
deriving DecidableEq, Repr

inductive Reply where
  | saved (logs : List Log.Entry) (completed : Bool)
  | shared (handle : Nat)
  | revision (count : Nat)
  | latest (saved : Option Saved)
  | history (saves : List Saved)
deriving DecidableEq, Repr

def call (shelf : Shelf) : Call → Shelf × Option Reply
  | .save handle record =>
      let result := shelf.save handle record
      (result.1, result.2.map fun receipt => .saved receipt.logs receipt.completed)
  | .share handle =>
      (shelf.share handle, shelf.handles[handle]?.map fun _ => .shared shelf.handles.length)
  | .revision handle => (shelf, (shelf.ledger? handle).map fun ledger => .revision ledger.revision)
  | .latest handle => (shelf, (shelf.ledger? handle).map fun ledger => .latest ledger.latest?)
  | .history handle => (shelf, (shelf.ledger? handle).map fun ledger => .history ledger.saves)

def run (shelf : Shelf) : List Call → Shelf × List (Option Reply)
  | [] => (shelf, [])
  | call :: rest =>
      let step := shelf.call call
      let tail := step.1.run rest
      (tail.1, step.2 :: tail.2)

end Shelf

end EditableProfile

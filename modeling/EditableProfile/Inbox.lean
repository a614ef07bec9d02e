import EditableProfile.Ledger

set_option autoImplicit false

namespace EditableProfile

inductive Inbox where
  | recorder (records : List Record)
  | callback (records : List Record)
  | ledger (kept : Ledger)

namespace Inbox

def receive : Host Inbox := fun inbox record =>
  match inbox with
  | .recorder records => (Host.recorder records record).map .recorder
  | .callback records => (Host.recorder records record).map .callback
  | .ledger kept => (kept.save record).map .ledger

def records : Inbox → List Record
  | .recorder records => records
  | .callback records => records
  | .ledger kept => kept.saves.map Saved.record

end Inbox

-- Passes records on to the handler it was last given, and remembers which handler had which.
structure Relay where
  handler : String
  calls : List (String × Record)
deriving DecidableEq, Repr

namespace Relay

def assign (handler : String) (relay : Relay) : Relay := { relay with handler }

def receive : Host Relay := fun relay record =>
  ⟨{ relay with calls := relay.calls ++ [(relay.handler, record)] }, [], true⟩

end Relay

end EditableProfile

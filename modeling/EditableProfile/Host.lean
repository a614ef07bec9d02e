import EditableProfile.Editor

set_option autoImplicit false

namespace EditableProfile

namespace Log

inductive Level where
  | trace
  | debug
  | info
  | warn
deriving DecidableEq, Repr

namespace Level

def name : Level → String
  | .trace => "TRACE"
  | .debug => "DEBUG"
  | .info => "INFO"
  | .warn => "WARN"

end Level

structure Entry where
  level : Level
  message : String
  values : List (String × String)
deriving DecidableEq, Repr

def actionWord : Action → String
  | .beginEdit => "begin_edit"
  | .change _ _ => "field_change"
  | .confirm => "confirm"
  | .discard => "discard"

def modeWord : Mode → String
  | .viewing => "Viewing"
  | .editing => "Editing"

def forwarding (record : Record) : Entry :=
  ⟨.debug, "Forwarding saved profile", [("user", record.display)]⟩

def unavailable (action : Action) (mode : Mode) : Entry :=
  ⟨.warn, "Profile action not available in current mode",
    [("action", actionWord action), ("mode", modeWord mode)]⟩

def fieldChanged (field : Field) : Entry :=
  ⟨.trace, "Profile field changed", [("field", field.name)]⟩

def modeChanged (action : Action) (mode : Mode) : Entry :=
  ⟨.debug, "Profile mode changed", [("action", actionWord action), ("mode", modeWord mode)]⟩

def requested (screen : String) (record : Record) : Entry :=
  ⟨.info, "Profile update requested",
    [("host", screen), ("username", record.username), ("email", record.email),
      ("avatar", record.avatar)]⟩

def saved (revision : Nat) (record : Record) : Entry :=
  ⟨.info, "Profile saved", [("revision", toString revision), ("user", record.display)]⟩

end Log

/-- What has become of a host by the time it hands back control, properly or by breaking off. -/
structure Receipt (σ : Type) where
  state : σ
  logs : List Log.Entry
  completed : Bool
deriving DecidableEq, Repr

def Receipt.map {σ τ : Type} (wrap : σ → τ) (receipt : Receipt σ) : Receipt τ :=
  ⟨wrap receipt.state, receipt.logs, receipt.completed⟩

/-- Any way to receive a record in a state. -/
abbrev Host (σ : Type) := σ → Record → Receipt σ

namespace Host

variable {σ : Type}

def recorder : Host (List Record) := fun records record => ⟨records ++ [record], [], true⟩

def logged (screen : String) (host : Host σ) : Host σ := fun state record =>
  let receipt := host state record
  { receipt with logs := Log.requested screen record :: receipt.logs }

-- The first screen is the outermost.
def layered (screens : List String) (host : Host σ) : Host σ := screens.foldr logged host

end Host

end EditableProfile

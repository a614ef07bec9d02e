import EditableProfile.Wire.Choice
import EditableProfile.Wire.Record

set_option autoImplicit false

namespace EditableProfile

open Json

namespace Wire

inductive Tag where
  | beginEdit
  | change
  | confirm
  | discard
deriving DecidableEq, Repr

def Tag.name : Tag → String
  | .beginEdit => "beginEdit"
  | .change => "fieldChange"
  | .confirm => "confirm"
  | .discard => "discard"

def Tag.choice : Choice Tag := ⟨[.beginEdit, .change, .confirm, .discard], Tag.name⟩

end Wire

open Wire

namespace Action

def toValue : Action → Value
  | .beginEdit => .object [("type", .string Tag.beginEdit.name)]
  | .change field value =>
      .object [("type", .string Tag.change.name), ("field", .string field.name),
        ("value", .string value)]
  | .confirm => .object [("type", .string Tag.confirm.name)]
  | .discard => .object [("type", .string Tag.discard.name)]

def json (action : Action) : String := action.toValue.text

end Action

namespace Wire

inductive Details where
  | items (items : List Value)
  | members (members : List (String × Value))

structure Change where
  field : Option Field
  value : Option String

def Change.finish (change : Change) : Except Mismatch Action :=
  match change.field, change.value with
  | some field, some value => .ok (.change field value)
  | none, _ => .error (.missingKey "field")
  | _, none => .error (.missingKey "value")

def changeOf (change : Change) : List (String × Value) → Except Mismatch Change
  | [] => .ok change
  | (key, value) :: rest =>
      if key = "field" then
        if change.field.isSome then .error (.repeatedKey key)
        else do
          let field ← Field.choice.ofValue true value
          changeOf { change with field := some field } rest
      else if key = "value" then
        if change.value.isSome then .error (.repeatedKey key)
        else do
          let text ← stringOf value
          changeOf { change with value := some text } rest
      else changeOf change rest

def changeAction : Details → Except Mismatch Action
  | .members members => do (← changeOf ⟨none, none⟩ members).finish
  | .items [] => .error (.wrongSize 0 .change)
  | .items (field :: items) => do
      let field ← Field.choice.ofValue true field
      match items with
      | [] => .error (.wrongSize 1 .change)
      | value :: more =>
          let value ← stringOf value
          if more.isEmpty then return .change field value
          else .error (.wrongSize (more.length + 2) (.exactly 2))

-- Members that an action has no use for are passed over, elements of an array are not.
def plainAction (action : Action) : Details → Except Mismatch Action
  | .members _ => .ok action
  | .items items =>
      if items.isEmpty then .ok action else .error (.wrongSize items.length (.exactly 0))

def actionOf (tag : Tag) (details : Details) : Except Mismatch Action :=
  match tag with
  | .beginEdit => plainAction .beginEdit details
  | .change => changeAction details
  | .confirm => plainAction .confirm details
  | .discard => plainAction .discard details

def tagReader : Reader Tag := fun text => do
  let (name, rest) ← stringFor .choiceName text
  return (← Tag.choice.accept name, rest)

-- The action itself has one of the brackets open.
def detail : Reader Value := value (nesting - 1)

structure Envelope where
  tag : Option Tag
  members : List (String × Value)

-- A second type is refused before its value is looked at.
def envelopeMember (envelope : Envelope) : Reader Envelope := fun text => do
  let (key, rest) ← key text
  if key = "type" then
    if envelope.tag.isSome then .error (.mismatch (.repeatedKey key))
    else
      let (_, rest) ← mark ':' rest
      let (tag, rest) ← tagReader rest
      return ({ envelope with tag := some tag }, rest)
  else
    let (_, rest) ← mark ':' rest
    let (value, rest) ← detail rest
    return ({ envelope with members := (key, value) :: envelope.members }, rest)

def envelopeReader : Reader (Tag × Details) := fun text =>
  match skipSpace text with
  | '[' :: rest =>
      match skipSpace rest with
      | ']' :: _ => .error (.mismatch (.missingKey "type"))
      | rest => do
          let (tag, rest) ← tagReader rest
          let (items, rest) ← moreEntries ']' (item detail) rest.length [] rest
          return ((tag, .items items.reverse), rest)
  | '{' :: rest => do
      let (envelope, rest) ← entries '}' envelopeMember ⟨none, []⟩ rest
      match envelope.tag with
      | some tag => return ((tag, .members envelope.members.reverse), rest)
      | none => .error (.mismatch (.missingKey "type"))
  | text => .error (refuse .action text)

end Wire

namespace Action

def reader : Reader Action := fun text => do
  let ((tag, details), rest) ← envelopeReader text
  let action ← (actionOf tag details).mapError Fault.mismatch
  return (action, rest)

def read (text : String) : Except Fault Action := whole reader text

end Action

namespace Wire

def tagOf : Value → Except Mismatch Tag
  | .string name => Tag.choice.named name
  | value => .error (.wrongType value.found .choiceName)

def envelopeOf (envelope : Envelope) : List (String × Value) → Except Mismatch Envelope
  | [] => .ok envelope
  | (key, value) :: rest =>
      if key = "type" then
        if envelope.tag.isSome then .error (.repeatedKey key)
        else do
          let tag ← tagOf value
          envelopeOf { envelope with tag := some tag } rest
      else envelopeOf { envelope with members := (key, value) :: envelope.members } rest

end Wire

def Action.ofValue : Value → Except Mismatch Action
  | .array [] => .error (.missingKey "type")
  | .array (first :: items) => do
      let tag ← tagOf first
      actionOf tag (.items items)
  | .object members => do
      let envelope ← envelopeOf ⟨none, []⟩ members
      match envelope.tag with
      | some tag => actionOf tag (.members envelope.members.reverse)
      | none => .error (.missingKey "type")
  | value => .error (.wrongType value.found .action)

end EditableProfile

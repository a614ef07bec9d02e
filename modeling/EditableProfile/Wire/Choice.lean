import EditableProfile.Json.Nested
import EditableProfile.Editor

set_option autoImplicit false

namespace EditableProfile.Wire

open Json

structure Choice (α : Type) where
  options : List α
  name : α → String

namespace Choice

variable {α : Type}

def named (choice : Choice α) (name : String) : Except Mismatch α :=
  match choice.options.find? fun option => choice.name option == name with
  | some result => .ok result
  | none => .error (.unknownName name (choice.options.map choice.name))

def accept (choice : Choice α) (name : String) : Except Fault α :=
  (choice.named name).mapError Fault.mismatch

def nothing : Reader Unit := fun text =>
  match skipSpace text with
  | 'n' :: rest => word ['u', 'l', 'l'] rest
  | text => .error (refuse .unit text)

def reader (choice : Choice α) : Reader α := fun text =>
  match skipSpace text with
  | [] => .error .ended
  | '"' :: rest => do
      let (name, rest) ← string rest
      return (← choice.accept name, rest)
  | '{' :: rest => do
      -- Without a quote in front the key is malformed, whatever else stands there.
      let (name, rest) ← key rest
      let result ← choice.accept name
      let (_, rest) ← mark ':' rest
      let (_, rest) ← nothing rest
      let (_, rest) ← mark '}' rest
      return (result, rest)
  | _ => .error .malformed

def read (choice : Choice α) (text : String) : Except Fault α := whole choice.reader text

-- Inside an action an object without members counts as null too.
def isNothing (insideAction : Bool) : Value → Bool
  | .null => true
  | .object [] => insideAction
  | _ => false

def ofValue (choice : Choice α) (insideAction : Bool) : Value → Except Mismatch α
  | .string name => choice.named name
  | .object [(name, value)] => do
      let result ← choice.named name
      if isNothing insideAction value then return result
      else .error (.wrongType value.found .unit)
  | .object _ => .error .notOneKey
  | value => .error (.wrongType value.found .choice)

end Choice

end EditableProfile.Wire

namespace EditableProfile

def Field.choice : Wire.Choice Field := ⟨[.username, .email, .avatar], Field.name⟩

def Mode.choice : Wire.Choice Mode := ⟨[.viewing, .editing], Mode.name⟩

end EditableProfile

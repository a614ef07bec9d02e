import EditableProfile.Json.Nested
import EditableProfile.Record

set_option autoImplicit false

namespace EditableProfile

open Json

def Record.toValue (record : Record) : Value :=
  .object [("username", .string record.username), ("email", .string record.email),
    ("avatar", .string record.avatar)]

def Record.json (record : Record) : String := record.toValue.text

namespace Wire

structure Draft where
  username : Option String
  email : Option String
  avatar : Option String
deriving DecidableEq, Repr

namespace Draft

def empty : Draft := ⟨none, none, none⟩

def get (draft : Draft) : Field → Option String
  | .username => draft.username
  | .email => draft.email
  | .avatar => draft.avatar

def set (draft : Draft) (field : Field) (value : String) : Draft :=
  match field with
  | .username => { draft with username := some value }
  | .email => { draft with email := some value }
  | .avatar => { draft with avatar := some value }

def finish (draft : Draft) : Except Mismatch Record :=
  match draft.username, draft.email, draft.avatar with
  | some username, some email, some avatar => .ok ⟨username, email, avatar⟩
  | none, _, _ => .error (.missingKey "username")
  | _, none, _ => .error (.missingKey "email")
  | _, _, none => .error (.missingKey "avatar")

end Draft

def draftMember (draft : Draft) : Reader Draft := fun text => do
  let (key, rest) ← key text
  match Field.ofName? key with
  | some field =>
      if (draft.get field).isSome then .error (.mismatch (.repeatedKey key))
      else
        let (_, rest) ← mark ':' rest
        let (value, rest) ← stringFor .string rest
        return (draft.set field value, rest)
  | none =>
      let (_, rest) ← mark ':' rest
      let (_, rest) ← skipValue rest
      return (draft, rest)

def element (count : Nat) : Reader String := fun text =>
  match skipSpace text with
  | [] => .error .ended
  | c :: rest =>
      if c = ']' then .error (.mismatch (.wrongSize count .record))
      else if count = 0 then stringFor .string (c :: rest)
      else if c = ',' then stringFor .string rest
      else .error .malformed

end Wire

open Wire

namespace Record

def reader : Reader Record := fun text =>
  match skipSpace text with
  | '[' :: rest => do
      let (username, rest) ← element 0 rest
      let (email, rest) ← element 1 rest
      let (avatar, rest) ← element 2 rest
      let (_, rest) ← mark ']' rest
      return (⟨username, email, avatar⟩, rest)
  | '{' :: rest => do
      let (draft, rest) ← entries '}' draftMember Draft.empty rest
      return (← draft.finish.mapError Fault.mismatch, rest)
  | text => .error (refuse .record text)

def read (text : String) : Except Fault Record := whole reader text

end Record

namespace Wire

def stringOf : Value → Except Mismatch String
  | .string text => .ok text
  | value => .error (.wrongType value.found .string)

def itemOf (items : List Value) (place : Nat) : Except Mismatch String :=
  match items[place]? with
  | some item => stringOf item
  | none => .error (.wrongSize items.length .record)

def draftOf (draft : Draft) : List (String × Value) → Except Mismatch Draft
  | [] => .ok draft
  | (key, value) :: rest =>
      match Field.ofName? key with
      | some field =>
          if (draft.get field).isSome then .error (.repeatedKey key)
          else do draftOf (draft.set field (← stringOf value)) rest
      | none => draftOf draft rest

end Wire

def Record.ofValue : Value → Except Mismatch Record
  | .array items => do
      let username ← itemOf items 0
      let email ← itemOf items 1
      let avatar ← itemOf items 2
      if items.length = 3 then return ⟨username, email, avatar⟩
      else .error (.wrongSize items.length .fewer)
  | .object members => do (← draftOf Draft.empty members).finish
  | value => .error (.wrongType value.found .record)

end EditableProfile

import EditableProfile.Field

set_option autoImplicit false

namespace EditableProfile

structure Record where
  username : String
  email : String
  avatar : String
deriving DecidableEq, Repr, Inhabited

namespace Record

def empty : Record := ⟨"", "", ""⟩

def get (record : Record) : Field → String
  | .username => record.username
  | .email => record.email
  | .avatar => record.avatar

def set (record : Record) (field : Field) (value : String) : Record :=
  match field with
  | .username => { record with username := value }
  | .email => { record with email := value }
  | .avatar => { record with avatar := value }

def display (record : Record) : String :=
  record.username ++ " <" ++ record.email ++ ">"

theorem get_set_self (record : Record) (field : Field) (value : String) :
    (record.set field value).get field = value := by
  cases field <;> rfl

theorem get_set_other (record : Record) (field other : Field) (value : String)
    (different : other ≠ field) : (record.set field value).get other = record.get other := by
  cases field <;> cases other <;> simp_all [get, set]

theorem ext_get (a b : Record) (same : ∀ field, a.get field = b.get field) : a = b := by
  have username := same .username
  have email := same .email
  have avatar := same .avatar
  cases a
  cases b
  simp only [get] at username email avatar
  simp [username, email, avatar]

end Record

namespace Sample

def alice : Record := ⟨"alice", "alice@example.com", "http://x/a.png"⟩

def bob : Record := ⟨"bob", "bob@example.com", "http://x/b.png"⟩

end Sample

end EditableProfile

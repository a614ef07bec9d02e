import EditableProfile.Text

set_option autoImplicit false

namespace EditableProfile

inductive Field where
  | username
  | email
  | avatar
deriving DecidableEq, Repr

namespace Field

def all : List Field := [.avatar, .username, .email]

def name : Field → String
  | .username => "username"
  | .email => "email"
  | .avatar => "avatar"

def ofName? (text : String) : Option Field := all.find? fun field => field.name == text

theorem mem_all (field : Field) : field ∈ all := by
  cases field <;> decide

theorem ofName_name (field : Field) : ofName? field.name = some field := by
  cases field <;> decide

theorem ofName_eq_some (text : String) (field : Field) :
    ofName? text = some field ↔ text = field.name := by
  constructor
  · intro found
    have same := List.find?_some found
    exact (beq_iff_eq.mp same).symm
  · intro same
    rw [same]
    exact ofName_name field

end Field

-- The name is kept as the keyword that was looked for.
structure UnknownField where
  name : String
deriving DecidableEq, Repr

namespace UnknownField

def detail (error : UnknownField) : String := "Unknown profile field: " ++ error.name

def message (error : UnknownField) : String := "Parse error: " ++ error.detail

end UnknownField

def Field.parse (text : String) : Except UnknownField Field :=
  match Field.ofName? (Text.keyword text) with
  | some field => .ok field
  | none => .error ⟨Text.keyword text⟩

end EditableProfile

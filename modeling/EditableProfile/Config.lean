import EditableProfile.Record

set_option autoImplicit false

namespace EditableProfile

inductive Layout where
  | desktop
  | mobile
deriving DecidableEq, Repr

structure UnknownLayout where
  name : String
deriving DecidableEq, Repr

def UnknownLayout.message (error : UnknownLayout) : String := "unknown shell kind: " ++ error.name

namespace Layout

def name : Layout → String
  | .desktop => "Desktop"
  | .mobile => "Mobile"

def parse (text : String) : Except UnknownLayout Layout :=
  let name := Text.keyword text
  if name = "desktop" then .ok .desktop
  else if name = "mobile" then .ok .mobile
  else .error ⟨name⟩

def style : Layout → String
  | .desktop => "width: 100vw; height: 100vh; overflow: auto;"
  | .mobile => "width: 100vw; height: 100vh; overflow: auto; max-width: 480px; margin: 0 auto;"

end Layout

namespace Variable

def layout : String := "PROFILEDESK_SHELL"
def username : String := "PROFILEDESK_USERNAME"
def email : String := "PROFILEDESK_EMAIL"
def avatar : String := "PROFILEDESK_AVATAR"

def all : List String := [layout, username, email, avatar]

end Variable

structure Warning where
  name : String
  message : String
deriving DecidableEq, Repr

def Warning.text (warning : Warning) : String := warning.name ++ ": " ++ warning.message

structure Config where
  layout : Layout
  user : Record
deriving DecidableEq, Repr

namespace Config

def default : Config := ⟨.desktop, ⟨"guest", "guest@example.com", ""⟩⟩

def layoutOf : Option String → Layout × List Warning
  | none => (default.layout, [])
  | some text =>
      match Layout.parse text with
      | .ok layout => (layout, [])
      | .error unknown => (default.layout, [⟨Variable.layout, unknown.message⟩])

def ofValues (layout username email avatar : Option String) : Config × List Warning :=
  let chosen := layoutOf layout
  let user : Record :=
    ⟨username.getD default.user.username, email.getD default.user.email,
      avatar.getD default.user.avatar⟩
  (⟨chosen.1, user⟩, chosen.2)

-- Asks for each variable once, whatever it takes to look one up.
def load {m : Type → Type} [Monad m] (lookup : String → m (Option String)) :
    m (Config × List Warning) := do
  let layout ← lookup Variable.layout
  let username ← lookup Variable.username
  let email ← lookup Variable.email
  let avatar ← lookup Variable.avatar
  return ofValues layout username email avatar

def ofLookup (lookup : String → Option String) : Config × List Warning := Id.run (load lookup)

def noting (lookup : String → Option String) (name : String) :
    StateM (List String) (Option String) :=
  fun asked => (lookup name, asked ++ [name])

def traced (lookup : String → Option String) : (Config × List Warning) × List String :=
  (load (noting lookup)).run []

def environmentText (bytes : List UInt8) : Option String := String.fromUTF8? ⟨bytes.toArray⟩

def ofEnvironment (environment : String → Option (List UInt8)) : Config × List Warning :=
  ofLookup fun name => (environment name).bind environmentText

end Config

end EditableProfile

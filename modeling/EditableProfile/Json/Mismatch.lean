import EditableProfile.Json.Value
import EditableProfile.Text

set_option autoImplicit false

namespace EditableProfile.Json

inductive Found where
  | null
  | bool (value : Bool)
  | integer (value : Int)
  | real (value : Double)
  | string (value : String)
  | array
  | object
deriving DecidableEq, Repr

namespace Found

def describe : Found → String
  | .null => "null"
  | .bool value => "boolean `" ++ toString value ++ "`"
  | .integer value => "integer `" ++ toString value ++ "`"
  | .real value => "floating point `" ++ String.ofList value.text ++ "`"
  | .string value => "string " ++ Text.quoted value
  | .array => "sequence"
  | .object => "map"

end Found

def Value.found : Value → Found
  | .null => .null
  | .bool value => .bool value
  | .number (.integer value) => .integer value
  | .number (.real value) => .real value
  | .string value => .string value
  | .array _ => .array
  | .object _ => .object

inductive Wanted where
  | string
  | unit
  | record
  | action
  | choiceName
  | choice
deriving DecidableEq, Repr

namespace Wanted

def describe : Wanted → String
  | .string => "a string"
  | .unit => "unit"
  | .record => "struct UserRecord"
  | .action => "internally tagged enum ProfileAction"
  | .choiceName => "variant identifier"
  | .choice => "string or map"

end Wanted

inductive Size where
  | record
  | change
  | exactly (count : Nat)
  | fewer
deriving DecidableEq, Repr

namespace Size

def describe : Size → String
  | .record => "struct UserRecord with 3 elements"
  | .change => "struct variant ProfileAction::FieldChange with 2 elements"
  | .exactly count => toString count ++ " elements in sequence"
  | .fewer => "fewer elements in array"

end Size

inductive Mismatch where
  | wrongType (found : Found) (wanted : Wanted)
  | wrongSize (count : Nat) (wanted : Size)
  | notOneKey
  | unknownName (name : String) (known : List String)
  | missingKey (key : String)
  | repeatedKey (key : String)
deriving DecidableEq, Repr

def nameList : List String → String
  | [first, second] => "`" ++ first ++ "` or `" ++ second ++ "`"
  | names => "one of " ++ String.intercalate ", " (names.map fun name => "`" ++ name ++ "`")

namespace Mismatch

def message : Mismatch → String
  | .wrongType found wanted =>
      "invalid type: " ++ found.describe ++ ", expected " ++ wanted.describe
  | .wrongSize count wanted =>
      "invalid length " ++ toString count ++ ", expected " ++ wanted.describe
  | .notOneKey => "invalid value: map, expected map with a single key"
  | .unknownName name known => "unknown variant `" ++ name ++ "`, expected " ++ nameList known
  | .missingKey key => "missing field `" ++ key ++ "`"
  | .repeatedKey key => "duplicate field `" ++ key ++ "`"

def initial : Mismatch → Char
  | .missingKey _ => 'm'
  | .repeatedKey _ => 'd'
  | .unknownName _ _ => 'u'
  | _ => 'i'

theorem message_initial (mismatch : Mismatch) :
    mismatch.message.toList.head? = some mismatch.initial := by
  delta message
  cases mismatch <;> simp [initial]

theorem message_tells_initial (left right : Mismatch) (same : left.message = right.message) :
    left.initial = right.initial := by
  have letter := left.message_initial
  rw [same, right.message_initial] at letter
  exact (Option.some.inj letter).symm

theorem key_told (opening left right : String)
    (same : opening ++ left ++ "`" = opening ++ right ++ "`") : left = right := by
  simpa using same

theorem message_missing (mismatch : Mismatch) (key : String) :
    mismatch.message = "missing field `" ++ key ++ "`" ↔ mismatch = .missingKey key := by
  constructor
  · intro same
    have letter := message_tells_initial mismatch (.missingKey key) same
    cases mismatch with
    | missingKey other => exact congrArg missingKey (key_told "missing field `" other key same)
    | _ => cases letter
  · rintro rfl
    rfl

theorem message_repeated (mismatch : Mismatch) (key : String) :
    mismatch.message = "duplicate field `" ++ key ++ "`" ↔ mismatch = .repeatedKey key := by
  constructor
  · intro same
    have letter := message_tells_initial mismatch (.repeatedKey key) same
    cases mismatch with
    | repeatedKey other => exact congrArg repeatedKey (key_told "duplicate field `" other key same)
    | _ => cases letter
  · rintro rfl
    rfl

end Mismatch

inductive Fault where
  | mismatch (cause : Mismatch)
  | malformed
  | ended
deriving DecidableEq, Repr

end EditableProfile.Json

import EditableProfile.Number.Literal

set_option autoImplicit false

namespace EditableProfile.Json

inductive Value where
  | null
  | bool (value : Bool)
  | number (value : Number)
  | string (value : String)
  | array (items : List Value)
  | object (members : List (String × Value))
deriving Inhabited

def hexDigit (n : Nat) : Char := Nat.digitChar (n % 16)

def escape (c : Char) : List Char :=
  match c with
  | '"' => ['\\', '"']
  | '\\' => ['\\', '\\']
  | '\x08' => ['\\', 'b']
  | '\x0c' => ['\\', 'f']
  | '\n' => ['\\', 'n']
  | '\r' => ['\\', 'r']
  | '\t' => ['\\', 't']
  | c =>
      if c.toNat < 0x20 then ['\\', 'u', '0', '0', hexDigit (c.toNat / 16), hexDigit c.toNat]
      else [c]

def quote (text : String) : List Char :=
  '"' :: (text.toList.flatMap escape ++ ['"'])

def separated : List (List Char) → List Char
  | [] => []
  | [part] => part
  | part :: rest => part ++ ',' :: separated rest

namespace Value

mutual

def write : Value → List Char
  | .null => ['n', 'u', 'l', 'l']
  | .bool true => ['t', 'r', 'u', 'e']
  | .bool false => ['f', 'a', 'l', 's', 'e']
  | .number value => value.text
  | .string value => quote value
  | .array items => '[' :: (separated (writeItems items) ++ [']'])
  | .object members => '{' :: (separated (writeMembers members) ++ ['}'])

def writeItems : List Value → List (List Char)
  | [] => []
  | value :: rest => value.write :: writeItems rest

def writeMembers : List (String × Value) → List (List Char)
  | [] => []
  | (key, value) :: rest => (quote key ++ ':' :: value.write) :: writeMembers rest

end

def text (value : Value) : String := String.ofList value.write

end Value

end EditableProfile.Json

import EditableProfile.Json.Characters
import EditableProfile.Json.Numeral

set_option autoImplicit false

namespace EditableProfile.Json

def scalar : Reader Value
  | [] => .error .ended
  | '"' :: rest => do
      let (value, rest) ← string rest
      return (.string value, rest)
  | 'n' :: rest => do
      let (_, rest) ← word ['u', 'l', 'l'] rest
      return (.null, rest)
  | 't' :: rest => do
      let (_, rest) ← word ['r', 'u', 'e'] rest
      return (.bool true, rest)
  | 'f' :: rest => do
      let (_, rest) ← word ['a', 'l', 's', 'e'] rest
      return (.bool false, rest)
  | c :: rest =>
      if startsNumber c then do
        let (value, rest) ← number (c :: rest)
        return (.number value, rest)
      else .error .malformed

def item (read : Reader Value) (items : List Value) : Reader (List Value) := fun text => do
  let (value, rest) ← read text
  return (value :: items, rest)

def member (read : Reader Value) (members : List (String × Value)) :
    Reader (List (String × Value)) := fun text => do
  let (key, rest) ← key text
  let (_, rest) ← mark ':' rest
  let (value, rest) ← read rest
  return ((key, value) :: members, rest)

def value : Nat → Reader Value
  | 0 => fun text => scalar (skipSpace text)
  | depth + 1 => fun text =>
      match skipSpace text with
      | '[' :: rest => do
          let (items, rest) ← entries ']' (item (value depth)) [] rest
          return (.array items.reverse, rest)
      | '{' :: rest => do
          let (members, rest) ← entries '}' (member (value depth)) [] rest
          return (.object members.reverse, rest)
      | text => scalar text

def skipScalar : Reader Unit
  | [] => .error .ended
  | '"' :: rest => skipString rest
  | 'n' :: rest => word ['u', 'l', 'l'] rest
  | 't' :: rest => word ['r', 'u', 'e'] rest
  | 'f' :: rest => word ['a', 'l', 's', 'e'] rest
  | c :: rest => if startsNumber c then skipNumber (c :: rest) else .error .malformed

def skipItem (skip : Reader Unit) (_ : Unit) : Reader Unit := skip

def skipMember (skip : Reader Unit) (_ : Unit) : Reader Unit := fun text => do
  let (_, rest) ← skipKey text
  let (_, rest) ← mark ':' rest
  skip rest

def skipNested : Nat → Reader Unit
  | 0 => fun text => skipScalar (skipSpace text)
  | depth + 1 => fun text =>
      match skipSpace text with
      | '[' :: rest => entries ']' (skipItem (skipNested depth)) () rest
      | '{' :: rest => entries '}' (skipMember (skipNested depth)) () rest
      | text => skipScalar text

-- No text opens more brackets than it has characters.
def skipValue : Reader Unit := fun text => skipNested text.length text

def nesting : Nat := 127

-- The fault of a value where another kind is wanted. A scalar is read to its end to be reported.
def refuse (wanted : Wanted) : List Char → Fault
  | '[' :: _ => .mismatch (.wrongType .array wanted)
  | '{' :: _ => .mismatch (.wrongType .object wanted)
  | text =>
      match scalar text with
      | .error fault => fault
      | .ok (value, _) => .mismatch (.wrongType value.found wanted)

def stringFor (wanted : Wanted) : Reader String := fun text =>
  match skipSpace text with
  | '"' :: rest => string rest
  | text => .error (refuse wanted text)

end EditableProfile.Json

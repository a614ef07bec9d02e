import EditableProfile.Json.Reader

set_option autoImplicit false

namespace EditableProfile.Json

def digits (short : Fault) : Reader (List Nat)
  | [] => .error short
  | c :: rest =>
      if c.isDigit then
        .ok ((c :: rest.takeWhile Char.isDigit).map fun c => c.toNat - '0'.toNat,
          rest.dropWhile Char.isDigit)
      else .error .malformed

def wholePart (short : Fault) : Reader (List Nat)
  | '0' :: rest =>
      match rest with
      | [] => .ok ([0], [])
      | c :: _ => if c.isDigit then .error .malformed else .ok ([0], rest)
  | text => digits short text

def fractionPart (short : Fault) : Reader (Option (List Nat))
  | '.' :: rest => do
      let (fraction, rest) ← digits short rest
      return (some fraction, rest)
  | text => .ok (none, text)

def signedDigits (short : Fault) : Reader (Bool × List Nat) := fun text => do
  let negative := text.head? == some '-'
  let unsigned := if negative || text.head? == some '+' then text.drop 1 else text
  let (power, rest) ← digits short unsigned
  return ((negative, power), rest)

def powerPart (short : Fault) : Reader (Option (Bool × List Nat))
  | [] => .ok (none, [])
  | c :: rest =>
      if c = 'e' ∨ c = 'E' then do
        let (power, rest) ← signedDigits short rest
        return (some power, rest)
      else .ok (none, c :: rest)

def literal (short : Fault) : Reader Literal := fun text => do
  let negative := text.head? == some '-'
  let (whole, rest) ← wholePart short (if negative then text.drop 1 else text)
  let (fraction, rest) ← fractionPart short rest
  let (power, rest) ← powerPart short rest
  return (⟨negative, whole, fraction, power⟩, rest)

def number : Reader Number := fun text => do
  let (literal, rest) ← literal .ended text
  match literal.number? with
  | some number => return (number, rest)
  | none => .error .malformed

-- A number that is passed over may be of any size, but a text that ends inside it is malformed.
def skipNumber : Reader Unit := fun text => do
  let (_, rest) ← literal .malformed text
  return ((), rest)

def startsNumber (c : Char) : Bool := c == '-' || c.isDigit

end EditableProfile.Json

import EditableProfile.Number.Double

/-!
Decimal literals and the numbers they stand for. A whole literal in the range of 64 bits is an
integer. Every other literal is a double: its leading digits, as many as fit 64 bits, are scaled by a
power of ten, and a literal whose scaled value has no finite double stands for no number.
-/

set_option autoImplicit false

namespace EditableProfile

inductive Number where
  | integer (value : Int)
  | real (value : Double)
deriving DecidableEq, Repr

namespace Number

def text : Number → List Char
  | .integer value => (toString value).toList
  | .real value => value.text

end Number

structure Literal where
  negative : Bool
  whole : List Nat
  fraction : Option (List Nat)
  power : Option (Bool × List Nat)
deriving DecidableEq, Repr

namespace Literal

def limit : Nat := Nat.pow 2 64

-- The digits taken so far; `full` once a digit has been left out.
structure Taken where
  significand : Nat
  exponent : Int
  full : Bool

def Taken.whole (taken : Taken) (digit : Nat) : Taken :=
  if taken.full || limit ≤ taken.significand * 10 + digit then
    { taken with exponent := taken.exponent + 1, full := true }
  else { taken with significand := taken.significand * 10 + digit }

def Taken.fraction (taken : Taken) (digit : Nat) : Taken :=
  if taken.full || limit ≤ taken.significand * 10 + digit then { taken with full := true }
  else { taken with
    significand := taken.significand * 10 + digit
    exponent := taken.exponent - 1 }

-- A fraction goes on after a whole part that left digits out, as long as its own digits fit.
def taken (literal : Literal) : Taken :=
  let whole := literal.whole.foldl Taken.whole ⟨0, 0, false⟩
  match literal.fraction with
  | none => whole
  | some digits => digits.foldl Taken.fraction { whole with full := false }

def powerValue (literal : Literal) : Int :=
  match literal.power with
  | none => 0
  | some (negative, digits) =>
      let value : Nat := digits.foldl (fun n digit => n * 10 + digit) 0
      if negative then -(value : Int) else value

def powerOfTen (n : Nat) : Float := Float.ofScientific 1 false n

-- The value times a power of ten, in steps that a double can hold. Three of them bring the largest
-- significand down to zero, so that four are never used up.
def scale : Nat → Float → Int → Option Float
  | 0, value, _ => some value
  | steps + 1, value, e =>
      if e.natAbs ≤ 308 then
        if 0 ≤ e then
          let scaled := value * powerOfTen e.natAbs
          if scaled.isInf then none else some scaled
        else some (value / powerOfTen e.natAbs)
      else if value == 0 then some value
      else if 0 ≤ e then none
      else scale steps (value / powerOfTen 308) (e + 308)

def real (negative : Bool) (value : Float) : Number :=
  .real ⟨(if negative then -value else value).toBits⟩

def number? (literal : Literal) : Option Number :=
  let taken := literal.taken
  let isWhole := literal.fraction.isNone && literal.power.isNone && !taken.full
  if isWhole && !literal.negative then some (.integer taken.significand)
  else if isWhole && 0 < taken.significand && taken.significand ≤ Nat.pow 2 63 then
    some (.integer (-taken.significand))
  else
    (scale 4 (UInt64.ofNat taken.significand).toFloat (taken.exponent + literal.powerValue)).map
      (real literal.negative)

end Literal

end EditableProfile

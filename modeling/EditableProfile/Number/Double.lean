/-!
Double-precision numbers and their shortest decimal text: the fewest digits that read back as the
same number, and of those the nearest to it.
-/

set_option autoImplicit false

namespace EditableProfile

structure Double where
  bits : UInt64
deriving DecidableEq, Repr

namespace Double

def isNegative (x : Double) : Bool := Nat.pow 2 63 ≤ x.bits.toNat

def exponentField (x : Double) : Nat := x.bits.toNat / Nat.pow 2 52 % Nat.pow 2 11

def fractionField (x : Double) : Nat := x.bits.toNat % Nat.pow 2 52

def significand (x : Double) : Nat :=
  if x.exponentField = 0 then x.fractionField else Nat.pow 2 52 + x.fractionField

def exponent (x : Double) : Int := (max x.exponentField 1 : Nat) - 1075

-- The multiples of `unit` that round to one double lie between `low` and `high`, and count with them
-- where the interval is closed.
structure Interval where
  low : Nat
  center : Nat
  high : Nat
  closed : Bool
  unit : Nat

def Interval.contains (i : Interval) (d : Nat) : Bool :=
  if i.closed then i.low ≤ d * i.unit && d * i.unit ≤ i.high
  else i.low < d * i.unit && d * i.unit < i.high

def Interval.point? (i : Interval) : Option Nat :=
  let below := i.center / i.unit
  let above := below + 1
  match i.contains below, i.contains above with
  | false, false => none
  | true, false => some below
  | false, true => some above
  | true, true =>
      let down := i.center - below * i.unit
      let up := above * i.unit - i.center
      if down < up then some below
      else if up < down then some above
      else if below % 2 = 0 then some below else some above

-- The interval of a positive double beside the multiples of `10 ^ k`. Everything is counted in quarters
-- of the last place, so that the nearer half below a power of two is a whole number.
def interval (x : Double) (k : Int) : Interval :=
  let scale := Nat.pow 2 (x.exponent - 2).toNat * Nat.pow 10 (-k).toNat
  let center := 4 * x.significand
  let low := if x.fractionField = 0 ∧ 1 < x.exponentField then center - 1 else center - 2
  { low := low * scale
    center := center * scale
    high := (center + 2) * scale
    closed := x.significand % 2 = 0
    unit := Nat.pow 2 (2 - x.exponent).toNat * Nat.pow 10 k.toNat }

-- Digits and exponent of the shortest decimal: the coarsest grid with a point in the interval.
def shortest (x : Double) : Nat × Int :=
  let hit := (List.range 650).findSome? fun (step : Nat) =>
    let k : Int := 310 - (step : Int)
    (x.interval k).point?.map fun d => (d, k)
  hit.getD (0, 0)

def exponentText (e : Int) : List Char :=
  (if e < 0 then '-' else '+') :: Nat.toDigits 10 e.natAbs

def decimalText (d : Nat) (k : Int) : List Char :=
  let digits := Nat.toDigits 10 d
  let e := k + (digits.length - 1 : Nat)
  if e < -5 ∨ 15 < e then
    let fraction := if digits.length = 1 then [] else '.' :: digits.drop 1
    digits.take 1 ++ fraction ++ 'e' :: exponentText e
  else if 0 ≤ k then digits ++ List.replicate k.toNat '0' ++ ['.', '0']
  else if 0 ≤ e then digits.take (e.toNat + 1) ++ '.' :: digits.drop (e.toNat + 1)
  else '0' :: '.' :: (List.replicate (-e - 1).toNat '0' ++ digits)

def magnitudeText (x : Double) : List Char :=
  if x.significand = 0 then ['0', '.', '0']
  else decimalText x.shortest.1 x.shortest.2

def text (x : Double) : List Char :=
  if x.isNegative then '-' :: x.magnitudeText else x.magnitudeText

end Double

end EditableProfile

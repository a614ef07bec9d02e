set_option autoImplicit false

namespace EditableProfile

/-- Seconds from the first moment of 1970 on, within the years -262143 to 262142. Nanoseconds that
run into a second second stand for a leap second. -/
structure Instant where
  seconds : Int
  nanoseconds : Nat
  inRange : -8334601228800 ≤ seconds ∧ seconds ≤ 8210266876799
  atMostTwo : nanoseconds < 2000000000
deriving DecidableEq, Repr

structure Date where
  year : Int
  month : Nat
  day : Nat
deriving DecidableEq, Repr

-- Gregorian, with days counted from the first of January 1970. Years begin in March here, so that a
-- leap day is the last of its year; an era is the 400 years after which the calendar repeats.
def Date.ofDay (day : Int) : Date :=
  let sinceMarch := day + 719468
  let era := sinceMarch / 146097
  let dayOfEra := (sinceMarch % 146097).toNat
  let yearOfEra := (dayOfEra - dayOfEra / 1460 + dayOfEra / 36524 - dayOfEra / 146096) / 365
  let dayOfYear := dayOfEra - (365 * yearOfEra + yearOfEra / 4 - yearOfEra / 100)
  let monthFromMarch := (5 * dayOfYear + 2) / 153
  let month := if monthFromMarch < 10 then monthFromMarch + 3 else monthFromMarch - 9
  let year := era * 400 + (yearOfEra : Int)
  { year := if month ≤ 2 then year + 1 else year
    month := month
    day := dayOfYear - (153 * monthFromMarch + 2) / 5 + 1 }

namespace Instant

def epoch : Instant := ⟨0, 0, by decide, by decide⟩

-- A leap second is asked for only at the end of a minute.
def of? (seconds nanoseconds : Int) : Option Instant :=
  if inRange : -8334601228800 ≤ seconds ∧ seconds ≤ 8210266876799 then
    if nanoseconds < 0 ∨ 1000000000 ≤ nanoseconds ∧ seconds % 60 ≠ 59 then none
    else if atMostTwo : nanoseconds.toNat < 2000000000 then
      some ⟨seconds, nanoseconds.toNat, inRange, atMostTwo⟩
    else none
  else none

def padded (width n : Nat) : String :=
  let digits := toString n
  String.ofList (List.replicate (width - digits.length) '0') ++ digits

def yearText (year : Int) : String :=
  if 0 ≤ year ∧ year ≤ 9999 then padded 4 year.toNat
  else (if year < 0 then "-" else "+") ++ padded 4 year.natAbs

def fractionText (nanoseconds : Nat) : String :=
  if nanoseconds = 0 then ""
  else if nanoseconds % 1000000 = 0 then "." ++ padded 3 (nanoseconds / 1000000)
  else if nanoseconds % 1000 = 0 then "." ++ padded 6 (nanoseconds / 1000)
  else "." ++ padded 9 nanoseconds

def text (instant : Instant) : String :=
  let date := Date.ofDay (instant.seconds / 86400)
  let second := (instant.seconds % 86400).toNat
  let extra := instant.nanoseconds / 1000000000
  yearText date.year ++ "-" ++ padded 2 date.month ++ "-" ++ padded 2 date.day ++ "T" ++
    padded 2 (second / 3600) ++ ":" ++ padded 2 (second / 60 % 60) ++ ":" ++
    padded 2 (second % 60 + extra) ++ fractionText (instant.nanoseconds % 1000000000) ++ "Z"

end Instant

structure Clock where
  reading : Nat → Option Instant
  taken : Nat

namespace Clock

def next (clock : Clock) : Option Instant × Clock :=
  (clock.reading clock.taken, { clock with taken := clock.taken + 1 })

-- The given readings in turn and then the last of them for ever; without any, only failures.
def ofReadings (readings : List (Option Instant)) : Clock where
  reading n := (readings[n]?.or readings.getLast?).join
  taken := 0

def stopped (instant : Instant) : Clock := ⟨fun _ => some instant, 0⟩

end Clock

end EditableProfile

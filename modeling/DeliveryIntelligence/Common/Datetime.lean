import DeliveryIntelligence.Common.Postgres

set_option autoImplicit false

/-!
# Dates and times

Python datetimes and PostgreSQL dates over one scale: microseconds since the epoch, and days
since the epoch. A timezone-aware datetime keeps its wall clock and its offset, because
`isoformat` shows both; PostgreSQL keeps only the instant.
-/

namespace Datetime

open Postgres

def microsPerSecond : Int := 1000000

def microsPerDay : Int := 86400 * microsPerSecond

/-- The proleptic Gregorian calendar date of a day number. -/
structure Civil where
  year : Int
  month : Int
  day : Int
  deriving DecidableEq, Repr

/-- Day numbers are counted from 1 March of year 0, in eras of 400 years. -/
def civilOfDays (days : Int) : Civil :=
  let shifted := days + 719468
  let era := shifted / 146097
  let dayOfEra := shifted % 146097
  let yearOfEra :=
    (dayOfEra - dayOfEra / 1460 + dayOfEra / 36524 - dayOfEra / 146096) / 365
  let dayOfYear := dayOfEra - (365 * yearOfEra + yearOfEra / 4 - yearOfEra / 100)
  let monthIndex := (5 * dayOfYear + 2) / 153
  let month := if monthIndex < 10 then monthIndex + 3 else monthIndex - 9
  { year := yearOfEra + era * 400 + (if month ≤ 2 then 1 else 0)
    month := month
    day := dayOfYear - (153 * monthIndex + 2) / 5 + 1 }

example : civilOfDays 20659 = ⟨2026, 7, 25⟩ := by decide

/-- A number with leading zeros up to the given width. -/
def padded (width : Nat) (n : Int) : String :=
  let digits := toString n.toNat
  String.ofList (List.replicate (width - digits.length) '0') ++ digits

/-- A timezone-aware `datetime`; both fields in microseconds. -/
structure Aware where
  wallClock : Int
  utcOffset : Int
  deriving DecidableEq, Repr

/-- The instant PostgreSQL stores for it. -/
def Aware.instant (t : Aware) : Timestamp := t.wallClock - t.utcOffset

/-- The fraction of a second, shown only when it is not zero. -/
def fraction (micros : Int) : String :=
  if micros % microsPerSecond = 0 then "" else "." ++ padded 6 (micros % microsPerSecond)

/-- `datetime.isoformat()` of a wall clock. -/
def isoformatWallClock (wallClock : Int) : String :=
  let date := civilOfDays (wallClock / microsPerDay)
  let seconds := wallClock % microsPerDay / microsPerSecond
  s!"{padded 4 date.year}-{padded 2 date.month}-{padded 2 date.day}T"
    ++ s!"{padded 2 (seconds / 3600)}:{padded 2 (seconds / 60 % 60)}:{padded 2 (seconds % 60)}"
    ++ fraction wallClock

/-- The offset `isoformat` appends; seconds only when there are any. -/
def isoformatOffset (utcOffset : Int) : String :=
  let sign := if utcOffset < 0 then "-" else "+"
  let magnitude := |utcOffset|
  let seconds := magnitude / microsPerSecond
  let tail :=
    if magnitude % (60 * microsPerSecond) = 0 then ""
    else ":" ++ padded 2 (seconds % 60) ++ fraction magnitude
  sign ++ s!"{padded 2 (seconds / 3600)}:{padded 2 (seconds / 60 % 60)}" ++ tail

/-- `datetime.isoformat()` -/
def Aware.isoformat (t : Aware) : String :=
  isoformatWallClock t.wallClock ++ isoformatOffset t.utcOffset

example : (Aware.mk (20659 * microsPerDay + 3600 * microsPerSecond) 0).isoformat
    = "2026-07-25T01:00:00+00:00" := by decide

end Datetime

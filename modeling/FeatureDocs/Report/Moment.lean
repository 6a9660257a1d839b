import FeatureDocs.Text.Basic

/-!
# Moments

A date and a time of day, to the second, as a summary shows them. The calendar is reckoned in eras
of 400 years that begin in March, so that the day which is sometimes missing is the last of a year.
-/

namespace FeatureDocs

/-- A date and a time of day. -/
structure Moment where
  year : Nat
  month : Nat
  day : Nat
  hour : Nat
  minute : Nat
  second : Nat
  deriving DecidableEq

namespace Moment

/-- A number in decimal digits, with zeros in front up to `width`. -/
def padded (width n : Nat) : Text :=
  List.replicate (width - (Text.ofNat n).length) '0' ++ Text.ofNat n

/-- The date with hyphens and the time with colons. -/
def toText (m : Moment) : Text :=
  Text.join "-" [padded 4 m.year, padded 2 m.month, padded 2 m.day] ++ " " ++
    Text.join ":" [padded 2 m.hour, padded 2 m.minute, padded 2 m.second]

/-- The days of an era. -/
def eraDays : Nat := 146097

/-- The days from the beginning of the calendar, in March of the year 0, to 1970. -/
def daysBefore1970 : Nat := 719468

/-- The year of an era that holds a day of the era. -/
def yearOfEra (day : Nat) : Nat := (day - day / 1460 + day / 36524 - day / 146096) / 365

/-- The days of an era before one of its years. -/
def daysBeforeYear (year : Nat) : Nat := 365 * year + year / 4 - year / 100

/-- The moment after a number of seconds from the beginning of 1970. -/
def ofSeconds (seconds : Nat) : Moment :=
  let days := seconds / 86400 + daysBefore1970
  let dayOfEra := days % eraDays
  let yearOfEra := yearOfEra dayOfEra
  let dayOfYear := dayOfEra - daysBeforeYear yearOfEra
  let monthFromMarch := (5 * dayOfYear + 2) / 153
  let early := 10 ≤ monthFromMarch
  { year := days / eraDays * 400 + yearOfEra + if early then 1 else 0
    month := if early then monthFromMarch - 9 else monthFromMarch + 3
    day := dayOfYear - (153 * monthFromMarch + 2) / 5 + 1
    hour := seconds % 86400 / 3600
    minute := seconds % 3600 / 60
    second := seconds % 60 }

example : ofSeconds 0 = ⟨1970, 1, 1, 0, 0, 0⟩ := by decide +kernel

example : ofSeconds 1709164799 = ⟨2024, 2, 28, 23, 59, 59⟩ := by decide +kernel

example : ofSeconds 1709164800 = ⟨2024, 2, 29, 0, 0, 0⟩ := by decide +kernel

end Moment

end FeatureDocs

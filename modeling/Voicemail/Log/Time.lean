import Voicemail.Number.Fixed

/-!
# Times in log lines

A moment as a log line shows it: the date of the proleptic calendar, the time of the day and the
fraction of a second, all in universal time.
-/

namespace Voicemail

/-- A date. -/
structure Date where
  year : Int
  month : Nat
  day : Nat
  deriving DecidableEq, Repr

namespace Date

/-- The days of an era of four hundred years. -/
def daysOfEra : Int := 146097

/-- The date that lies some days after the first of January 1970. Years are counted from March, so
that the day that is left out in most years is the last one. -/
def ofDays (days : Int) : Date :=
  let shifted := days + 719468
  let era := shifted / daysOfEra
  let day := (shifted % daysOfEra).toNat
  let year := (day - day / 1460 + day / 36524 - day / 146096) / 365
  let dayOfYear := day - (365 * year + year / 4 - year / 100)
  let month := (5 * dayOfYear + 2) / 153
  let dayOfMonth := dayOfYear - (153 * month + 2) / 5 + 1
  let monthOfYear := if month < 10 then month + 3 else month - 9
  ⟨Int.ofNat year + 400 * era + (if monthOfYear ≤ 2 then 1 else 0), monthOfYear, dayOfMonth⟩

end Date

namespace LogRecord

/-- A number with at least some digits. -/
def digits (width n : Nat) : String := String.ofList (Binary64.paddedDigits width n)

/-- The text of the moment that lies some microseconds after the beginning of 1970. -/
def timeText (microseconds : Nat) : String :=
  let seconds := microseconds / 1000000
  let d := Date.ofDays (seconds / 86400)
  let ofDay := seconds % 86400
  digits 4 d.year.toNat ++ "-" ++ digits 2 d.month ++ "-" ++ digits 2 d.day ++ "T" ++
    digits 2 (ofDay / 3600) ++ ":" ++ digits 2 (ofDay / 60 % 60) ++ ":" ++ digits 2 (ofDay % 60) ++
    "." ++ digits 6 (microseconds % 1000000) ++ "Z"

end LogRecord

end Voicemail

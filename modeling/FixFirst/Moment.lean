import FixFirst.Decimal.Layout
import FixFirst.Decimal.Read
import FixFirst.Fault
import FixFirst.Quantity

/-!
# Moments of wall time

Wall time is counted in seconds since the start of 1970.  A moment is shown in the extended
calendar format in coordinated universal time, with microseconds if there are any, and it
is part of the identifier that correlates the traces of a run.
-/

namespace FixFirst

open Text

variable {τ : Type} [Quantity τ]

/-- The whole microseconds of a moment, to the nearest one: the fraction of a second is taken
first and then scaled. -/
def microseconds (moment : τ) : Int :=
  match Quantity.exact moment with
  | .finite negative num den =>
    let fraction : τ := Quantity.nearest negative (num % den) den * Quantity.ofNat 1000000
    let parts := match Quantity.exact fraction with
      | .finite minus above below => signed minus (roundDiv above below)
      | _ => 0
    signed negative (num / den) * 1000000 + parts
  | _ => 0

/-- A date of the calendar. -/
structure Date where
  year : Int
  month : Int
  day : Int
  deriving DecidableEq, Repr

/-- The date so many days after the first of January 1970.  Years are counted from March, so
that the leap day is the last of its year, in cycles of 400. -/
def Date.ofDays (days : Int) : Date :=
  let shifted := days + 719468
  let cycle := shifted.fdiv 146097
  let dayOfCycle := shifted - cycle * 146097
  let yearOfCycle :=
    (dayOfCycle - dayOfCycle / 1460 + dayOfCycle / 36524 - dayOfCycle / 146096) / 365
  let dayOfYear := dayOfCycle - (365 * yearOfCycle + yearOfCycle / 4 - yearOfCycle / 100)
  let monthFromMarch := (5 * dayOfYear + 2) / 153
  let day := dayOfYear - (153 * monthFromMarch + 2) / 5 + 1
  let month := if monthFromMarch < 10 then monthFromMarch + 3 else monthFromMarch - 9
  let year := yearOfCycle + cycle * 400
  ⟨if month ≤ 2 then year + 1 else year, month, day⟩

/-- A moment in the extended calendar format. -/
def momentText (moment : τ) : String :=
  let total := microseconds moment
  let micros := total.fmod 1000000
  let seconds := total.fdiv 1000000
  let date := Date.ofDays (seconds.fdiv 86400)
  let clock := seconds.fmod 86400
  let pad (width : Nat) (value : Int) : List Char := zeroFill width (natText value.toNat)
  String.ofList (pad 4 date.year ++ '-' :: pad 2 date.month ++ '-' :: pad 2 date.day ++
    'T' :: pad 2 (clock / 3600) ++ ':' :: pad 2 (clock / 60 % 60) ++ ':' :: pad 2 (clock % 60) ++
    (if micros = 0 then [] else '.' :: pad 6 micros) ++ "+00:00".toList)

/-- Whether the moment so many whole seconds after the start of 1970 has a date: its year has at
most four digits and is not before the first.  Beyond that a moment cannot be counted, which it can
be up to `last`, or has a year that cannot be written. -/
def checkSeconds (last seconds : Int) : Except Fault Unit :=
  let year := (Date.ofDays (seconds.fdiv 86400)).year
  if seconds < -0x8000000000000000 || last < seconds then .error (.overflow "a time that cannot be counted")
  else if year - 1900 < -0x80000000 || 0x80000000 ≤ year - 1900 then .error (.system "a year that cannot be counted")
  else if year < 1 || 9999 < year then .error (.value "a year that cannot be written")
  else .ok ()

/-- Whether a moment has a date.  The last moment that can be counted is `2 ^ 63 - 1` seconds after
the start of 1970; a measured moment is held against the number of its own kind that is nearest to
that. -/
def checkDate : Amount τ → Except Fault Unit
  | .whole seconds => checkSeconds 0x7fffffffffffffff seconds
  | .measured moment =>
    match Quantity.exact moment with
    | .undefined => .error (.value "an undefined time")
    | .infinite _ => .error (.overflow "an infinite time")
    | .finite .. => checkSeconds 0x8000000000000000 ((microseconds moment).fdiv 1000000)

/-- The whole milliseconds of a moment. -/
def milliseconds (moment : τ) : Except Fault Int :=
  match Quantity.exact (moment * Quantity.ofNat 1000) with
  | .finite negative num den => .ok (signed negative (num / den))
  | .infinite _ => .error (.overflow "an infinite time")
  | .undefined => .error (.value "an undefined time")

/-- The identifier of a run that starts so many milliseconds after the start of 1970; `random`
tells apart runs of one millisecond. -/
def correlationId (millis : Int) (random : String) : String :=
  "qc-" ++ String.ofList (intText millis) ++ "-" ++ random

end FixFirst

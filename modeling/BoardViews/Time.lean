import BoardViews.Number.Binary64

/-
  Points in time, counted in microseconds from the start of 1970: whole seconds, the milliseconds
  that rows are stamped with (`get_millis`), the calendar date and the time stamp of a message.
  The clock may stand anywhere, so there are points without milliseconds and points without a
  date.
-/

namespace BoardViews

/-- A point in time. -/
structure Instant where
  micros : Int
  deriving DecidableEq, Repr

/-- A day of the calendar. -/
structure Date where
  year : Int
  month : Nat
  day : Nat
  deriving DecidableEq, Repr

/-- Why a point in time has no milliseconds: it is too far away to be told in seconds, or to be
told in milliseconds. -/
inductive ClockFault where
  | noSeconds
  | noMillis
  deriving DecidableEq, Repr

/-- What people are told. -/
def ClockFault.message : ClockFault → String
  | .noSeconds => "integer division result too large for a float"
  | .noMillis => "cannot convert float infinity to integer"

/-- Why a point in time, or a span of it, is beyond the calendar. -/
inductive DateFault where
  | outOfRange
  | tooManyDays (days : Int)
  | noWord
  deriving DecidableEq, Repr

/-- What people are told. -/
def DateFault.message : DateFault → String
  | .outOfRange => "date value out of range"
  | .tooManyDays days => "days=" ++ Text.integer days ++ "; must have magnitude <= 999999999"
  | .noWord => "Python int too large to convert to C int"

/-- Why a span cannot be counted in days, if it cannot. -/
def spanFault? (days : Int) : Option DateFault :=
  if days < -2147483648 ∨ 2147483648 ≤ days then some .noWord
  else if days < -999999999 ∨ 999999999 < days then some (.tooManyDays days)
  else none

namespace Instant

/-- Whole seconds, rounded down. -/
def seconds (t : Instant) : Int := t.micros / 1000000

/-- The clock in milliseconds (`get_millis`). The clock tells seconds as a floating point number, so
the product may fall just short of a whole millisecond, which is then lost. -/
def millis (t : Instant) : Except ClockFault Int :=
  match Binary64.ofIntRatio t.micros 1000000 with
  | .finite s m e =>
    match ((Binary64.finite s m e).scale 1000).truncate? with
    | some n => .ok n
    | none => .error .noMillis
  | _ => .error .noSeconds

/-- The moment some minutes later. -/
def plusMinutes (t : Instant) (minutes : Int) : Instant := ⟨t.micros + minutes * 60000000⟩

/-- The start of the year 1, in seconds. -/
def firstSecond : Int := -62135596800

/-- The end of the year 9999, in seconds. -/
def lastSecond : Int := 253402300799

/-- A moment in the years 1 to 9999. -/
def isDated (t : Instant) : Bool := firstSecond ≤ t.seconds && t.seconds ≤ lastSecond

/-- Why a moment has no date, if it has none. -/
def dateFault? (t : Instant) : Option DateFault :=
  match spanFault? (t.seconds / 86400) with
  | some f => some f
  | none => if t.isDated then none else some .outOfRange

end Instant

/-- The date of a day, counted from the start of 1970. Years start in March here, so that the day
that is left out of most years is the last one; 146097 days make 400 years. -/
def Date.ofDays (days : Int) : Date :=
  let z := days + 719468
  let era := z / 146097
  let doe := (z % 146097).toNat
  let yoe := (doe - doe / 1460 + doe / 36524 - doe / 146096) / 365
  let doy := doe - (365 * yoe + yoe / 4 - yoe / 100)
  let mp := (5 * doy + 2) / 153
  let month := if mp < 10 then mp + 3 else mp - 9
  { year := yoe + era * 400 + (if month ≤ 2 then 1 else 0)
    month := month
    day := doy - (153 * mp + 2) / 5 + 1 }

namespace Instant

/-- The time stamp: date, time and offset, with microseconds only where there are some. -/
def stamp (t : Instant) : String :=
  let date := Date.ofDays (t.seconds / 86400)
  let second := (t.seconds % 86400).toNat
  let micros := (t.micros % 1000000).toNat
  let two := Text.padded 2
  String.ofList <|
    Text.padded 4 date.year.toNat ++ '-' :: two date.month ++ '-' :: two date.day ++
    'T' :: two (second / 3600) ++ ':' :: two (second / 60 % 60) ++ ':' :: two (second % 60) ++
    (if micros = 0 then [] else '.' :: Text.padded 6 micros) ++ "+00:00".toList

theorem seconds_plusMinutes (t : Instant) (minutes : Int) :
    (t.plusMinutes minutes).seconds = t.seconds + minutes * 60 := by
  simp only [seconds, plusMinutes]
  omega

end Instant

end BoardViews

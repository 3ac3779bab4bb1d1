import TemplatedRequests.Binary64
import TemplatedRequests.Clock.Date
import TemplatedRequests.Fault

/-!
Moments to the microsecond, with the zone of the clock that shows them, and the two formats they
are written in.
-/

namespace TemplatedRequests.Clock

def microsPerSecond : Int := 1000000

def secondsPerDay : Int := 86400

/-- `wall` is what the clock shows, in microseconds of the calendar; the clock is `ahead` seconds
ahead of universal time. -/
structure Moment where
  wall : Int
  ahead : Int
  deriving DecidableEq, Repr

structure TimeOfDay where
  hour : Nat
  minute : Nat
  second : Nat
  micro : Nat
  deriving DecidableEq, Repr

def TimeOfDay.ofMicros (n : Nat) : TimeOfDay :=
  let seconds := n / 1000000
  ⟨seconds / 3600, seconds / 60 % 60, seconds % 60, n % 1000000⟩

def TimeOfDay.toMicros (t : TimeOfDay) : Nat :=
  ((t.hour * 60 + t.minute) * 60 + t.second) * 1000000 + t.micro

def calendarEnd : Int := calendarDays * secondsPerDay * microsPerSecond

def inCalendar (micros : Int) : Bool := 0 ≤ micros && micros < calendarEnd

namespace Moment

def ofDate (date : Date) (time : TimeOfDay) (ahead : Int) : Moment :=
  ⟨date.toDays * secondsPerDay * microsPerSecond + time.toMicros, ahead⟩

/-- What a clock at universal time shows at the same moment. -/
def universal (m : Moment) : Int := m.wall - m.ahead * microsPerSecond

def dayAndTime (wall : Int) : Nat × TimeOfDay :=
  let n := wall.toNat
  (n / 86400000000, .ofMicros (n % 86400000000))

/-- Moves the wall clock by a number of seconds, within the calendar. -/
def shift? (m : Moment) (seconds : Int) : Option Moment :=
  let wall := m.wall + seconds * microsPerSecond
  if inCalendar wall then some { m with wall } else none

def epoch : Int := 719162 * secondsPerDay * microsPerSecond

/-- Seconds since 1970: the quotient of the microseconds as a floating point number, cut toward
zero. -/
def timestamp (m : Moment) : Int :=
  let micros := m.universal - epoch
  ((Binary64.ofQuotient (micros < 0) micros.natAbs 1000000).truncate?).getD 0

end Moment

def padded (width n : Nat) : String :=
  let digits := Nat.toDigits 10 n
  String.ofList (List.replicate (width - digits.length) '0' ++ digits)

def timeText (t : TimeOfDay) : String :=
  padded 2 t.hour ++ ":" ++ padded 2 t.minute ++ ":" ++ padded 2 t.second

/-- A zone as sign, hours and minutes, and seconds where there are any. -/
def zoneText (ahead : Int) : String :=
  let n := ahead.natAbs
  (if ahead < 0 then "-" else "+") ++ padded 2 (n / 3600) ++ padded 2 (n / 60 % 60)
    ++ (if n % 60 = 0 then "" else padded 2 (n % 60))

def rfc1123 (m : Moment) : String :=
  let (day, time) := Moment.dayAndTime m.wall
  let date := Date.ofDays day
  weekdayName day ++ ", " ++ padded 2 date.day ++ " " ++ date.monthName ++ " "
    ++ padded 4 date.year ++ " " ++ timeText time ++ " " ++ zoneText m.ahead

def iso8601 (m : Moment) : Except Fault String :=
  if inCalendar m.universal then
    let (day, time) := Moment.dayAndTime m.universal
    let date := Date.ofDays day
    .ok (padded 4 date.year ++ "-" ++ padded 2 date.month ++ "-" ++ padded 2 date.day ++ "T"
      ++ timeText time ++ "." ++ padded 3 (time.micro / 1000) ++ "Z")
  else .error .dateOutOfRange

end TemplatedRequests.Clock

/-!
The Gregorian calendar from year 1 on. Days are counted from the first of January of year 1, a
Monday.
-/

namespace TemplatedRequests.Clock

structure Date where
  year : Nat
  month : Nat
  day : Nat
  deriving DecidableEq, Repr

def isLeap (year : Nat) : Bool := year % 4 == 0 && (year % 100 != 0 || year % 400 == 0)

def monthLengths (year : Nat) : List Nat :=
  [31, if isLeap year then 29 else 28, 31, 30, 31, 30, 31, 31, 30, 31, 30, 31]

def daysBeforeYear (year : Nat) : Nat :=
  let y := year - 1
  y * 365 + y / 4 - y / 100 + y / 400

/-- The month, counted from `month`, and the day in it, for a day counted from zero. -/
def inMonths (month : Nat) : List Nat → Nat → Nat × Nat
  | [], day => (month, day + 1)
  | [_], day => (month, day + 1)
  | l :: ls, day => if day < l then (month, day + 1) else inMonths (month + 1) ls (day - l)

/-- The year a day falls in. A year of 366 days is the last of its four, and of its four hundred
at a century. -/
def yearOfDay (days : Nat) : Nat :=
  let n400 := days / 146097
  let r400 := days % 146097
  let n100 := min (r400 / 36524) 3
  let r100 := r400 - n100 * 36524
  let n4 := r100 / 1461
  let r4 := r100 % 1461
  let n1 := min (r4 / 365) 3
  n400 * 400 + n100 * 100 + n4 * 4 + n1 + 1

def Date.ofDays (days : Nat) : Date :=
  let year := yearOfDay days
  let (month, day) := inMonths 1 (monthLengths year) (days - daysBeforeYear year)
  ⟨year, month, day⟩

def Date.toDays (d : Date) : Nat :=
  ((monthLengths d.year).take (d.month - 1)).foldl (· + ·) (daysBeforeYear d.year) + (d.day - 1)

def calendarDays : Nat := 3652059

def weekdayNames : List String := ["Mon", "Tue", "Wed", "Thu", "Fri", "Sat", "Sun"]

def monthNames : List String :=
  ["Jan", "Feb", "Mar", "Apr", "May", "Jun", "Jul", "Aug", "Sep", "Oct", "Nov", "Dec"]

def weekdayName (days : Nat) : String := (weekdayNames[days % 7]?).getD ""

def Date.monthName (d : Date) : String := (monthNames[d.month - 1]?).getD ""

end TemplatedRequests.Clock

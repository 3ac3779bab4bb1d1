import Mathlib.Tactic.IntervalCases
import TemplatedRequests.Clock.Moment
import TemplatedRequests.Proofs.Clock.Calendar
import TemplatedRequests.Text.Search

/-!
The two formats of moments, read back. A reader takes the fields of a text one after another and refuses
what is no day of the calendar or no time of a day. What is written for a moment is read as the moment
itself, down to the millisecond or to the second.
-/

namespace TemplatedRequests.Clock

/-- Takes a part from the beginning of a text, if it begins as it should. -/
abbrev Reader := StateT (List Char) Option

namespace Reader

variable {α β : Type}

def number (width : Nat) : Reader Nat := fun cs =>
  let ds := cs.take width
  if ds.length = width ∧ ds.all Char.isDigit = true then
    some (Nat.ofDigitChars 10 ds 0, cs.drop width)
  else none

def literal (text : String) : Reader Unit := fun cs => (Text.after? text.toList cs).map ((), ·)

/-- What the first fitting text of a table stands for. -/
def choice : List (String × α) → Reader α
  | [] => failure
  | (text, a) :: table => fun cs => match Text.after? text.toList cs with
    | some rest => some (a, rest)
    | none => choice table cs

def whole (r : Reader α) (text : String) : Option α :=
  (r.run text.toList).bind fun (a, rest) => if rest = [] then some a else none

/-- The reader takes the text and no more of what follows it. -/
def Takes (r : Reader α) (text : String) (a : α) : Prop :=
  ∀ rest, r.run (text.toList ++ rest) = some (a, rest)

section Takes

variable {r : Reader α} {front back text : String} {a : α} {b : β}

theorem takes_pure (a : α) : Takes (pure a) "" a := fun _ => rfl

theorem Takes.bind {f : α → Reader β} (hr : Takes r front a) (hf : Takes (f a) back b) :
    Takes (r >>= f) (front ++ back) b := by
  intro rest
  rw [String.toList_append, List.append_assoc, StateT.run_bind, hr]
  exact hf rest

theorem Takes.bind_pure {f : α → Reader β} (hr : Takes r text a) (hf : f a = pure b) :
    Takes (r >>= f) text b := by
  have h := hr.bind (hf ▸ takes_pure b)
  rwa [String.append_empty] at h

theorem Takes.whole_eq (h : Takes r text a) : whole r text = some a := by
  have hrun := h []
  rw [List.append_nil] at hrun
  rw [whole, hrun]
  rfl

theorem takes_literal (text : String) : Takes (literal text) text () := by
  intro rest
  change (Text.after? text.toList (text.toList ++ rest)).map ((), ·) = _
  rw [Text.after?_eq_some_iff.2 rfl]
  rfl

theorem toList_padded (width n : Nat) : (padded width n).toList =
    List.replicate (width - (Nat.toDigits 10 n).length) '0' ++ Nat.toDigits 10 n :=
  String.toList_ofList

theorem takes_number {width n : Nat} (hw : 0 < width) (h : n < Nat.pow 10 width) :
    Takes (number width) (padded width n) n := by
  have hle := (Nat.length_toDigits_le_iff (by decide) hw).2 h
  have hlength : (padded width n).toList.length = width := by
    rw [toList_padded, List.length_append, List.length_replicate]
    omega
  have hdigits : (padded width n).toList.all Char.isDigit = true := by
    rw [toList_padded, List.all_append, List.all_replicate, Bool.and_eq_true, List.all_eq_true]
    refine ⟨by simp, fun c hc => ?_⟩
    exact Nat.isDigit_of_mem_toDigits (by decide) (by decide) hc
  have hvalue : Nat.ofDigitChars 10 (padded width n).toList 0 = n := by
    rw [toList_padded, Nat.ofDigitChars_append, Nat.ofDigitChars_replicate_zero, Nat.mul_zero,
      Nat.ofDigitChars_ten_toDigits]
  intro rest
  change (if _ ∧ _ then _ else _) = _
  rw [List.take_left' hlength, List.drop_left' hlength, if_pos ⟨hlength, hdigits⟩, hvalue]

theorem run_choice_of_some {table : List (String × α)} {cs rest : List Char}
    (h : Text.after? text.toList cs = some rest) :
    (choice ((text, a) :: table)).run cs = some (a, rest) := by
  simp [choice, StateT.run, h]

theorem run_choice_of_none {table : List (String × α)} {cs : List Char}
    (h : Text.after? text.toList cs = none) :
    (choice ((text, a) :: table)).run cs = (choice table).run cs := by
  simp [choice, StateT.run, h]

theorem takes_choice {table : List (String × α)} (width : Nat)
    (hwidth : ∀ p ∈ table, p.1.toList.length = width) (hdistinct : (table.map Prod.fst).Nodup)
    (h : (text, a) ∈ table) : Takes (choice table) text a := by
  induction table with
  | nil => cases h
  | cons p table ih =>
    obtain ⟨other, b⟩ := p
    obtain ⟨hother, htable⟩ := List.forall_mem_cons.1 hwidth
    obtain ⟨hfresh, hdistinct⟩ := List.nodup_cons.1 hdistinct
    intro rest
    rcases List.mem_cons.1 h with heq | hm
    · obtain ⟨rfl, rfl⟩ := Prod.mk.inj heq
      exact run_choice_of_some (Text.after?_eq_some_iff.2 rfl)
    · have hnone : Text.after? other.toList (text.toList ++ rest) = none := by
        rw [Option.eq_none_iff_forall_ne_some]
        intro r hr
        have hlength : text.toList.length = other.toList.length := (htable _ hm).trans hother.symm
        have hsame := (List.append_inj (Text.after?_eq_some_iff.1 hr) hlength).1
        rw [String.toList_inj] at hsame
        exact hfresh (hsame ▸ List.mem_map.2 ⟨_, hm, rfl⟩)
      rw [run_choice_of_none hnone]
      exact ih htable hdistinct hm rest

end Takes

end Reader

def weekdays : List (String × Weekday) := [("Mon", .monday), ("Tue", .tuesday), ("Wed", .wednesday),
  ("Thu", .thursday), ("Fri", .friday), ("Sat", .saturday), ("Sun", .sunday)]

def months : List (String × Nat) := [("Jan", 1), ("Feb", 2), ("Mar", 3), ("Apr", 4), ("May", 5),
  ("Jun", 6), ("Jul", 7), ("Aug", 8), ("Sep", 9), ("Oct", 10), ("Nov", 11), ("Dec", 12)]

structure TimeOfDay.IsValid (t : TimeOfDay) : Prop where
  hour : t.hour < 24
  minute : t.minute < 60
  second : t.second < 60
  micro : t.micro < 1000000

theorem TimeOfDay.isValid_iff {t : TimeOfDay} : t.IsValid ↔
    t.hour < 24 ∧ t.minute < 60 ∧ t.second < 60 ∧ t.micro < 1000000 :=
  ⟨fun h => ⟨h.hour, h.minute, h.second, h.micro⟩, fun ⟨hh, hm, hs, hu⟩ => ⟨hh, hm, hs, hu⟩⟩

instance (t : TimeOfDay) : Decidable t.IsValid := decidable_of_iff' _ TimeOfDay.isValid_iff

namespace Reader

def time (micro : Nat) : Reader TimeOfDay := do
  let hour ← number 2
  literal ":"
  let minute ← number 2
  literal ":"
  let second ← number 2
  return ⟨hour, minute, second, micro⟩

/-- A zone in hours and minutes, as the seconds that its clocks are ahead. Zeros after a minus sign tell
that the zone is not known. -/
def zone : Reader Int := do
  let sign ← choice [("+", 1), ("-", -1)]
  let hours ← number 2
  let minutes ← number 2
  let seconds : Nat := hours * 3600 + minutes * 60
  if sign < 0 ∧ seconds = 0 then failure else return sign * seconds

/-- Refuses what is not in the calendar or on a clock. -/
def moment (date : Date) (time : TimeOfDay) (ahead : Int) : Reader Moment :=
  if date.IsValid ∧ time.IsValid then pure (.ofDate date time ahead) else failure

def iso8601 : Reader Moment := do
  let year ← number 4
  literal "-"
  let month ← number 2
  literal "-"
  let day ← number 2
  literal "T"
  let clock ← time 0
  literal "."
  let millis ← number 3
  literal "Z"
  moment ⟨year, month, day⟩ { clock with micro := millis * 1000 } 0

def rfc1123 : Reader (Weekday × Moment) := do
  let weekday ← choice weekdays
  literal ", "
  let day ← number 2
  literal " "
  let month ← choice months
  literal " "
  let year ← number 4
  literal " "
  let clock ← time 0
  literal " "
  let ahead ← zone
  let m ← moment ⟨year, month, day⟩ clock ahead
  return (weekday, m)

end Reader

def Moment.ofIso8601? (text : String) : Option Moment := Reader.iso8601.whole text

/-- The weekday as well, which is not compared with the date. -/
def Moment.ofRfc1123? (text : String) : Option (Weekday × Moment) := Reader.rfc1123.whole text

section Fields

variable {date : Date} {time : TimeOfDay}

theorem Date.IsValid.day_le (h : date.IsValid) : date.day ≤ 31 := by
  have hall : ∀ l ∈ monthLengths date.year, l ≤ 31 := by
    unfold monthLengths
    split <;> decide
  have hmonth := hall _ (List.mem_of_getElem? (getElem?_monthLengths date.year h.month.2))
  exact h.day.2.trans hmonth

theorem Date.IsValid.monthName_mem (h : date.IsValid) : (date.monthName, date.month) ∈ months := by
  obtain ⟨hfirst, hlast⟩ := h.month
  rw [monthName]
  generalize date.month = month at hfirst hlast
  interval_cases month <;> decide

theorem weekdayName_mem (days : Nat) : (weekdayName days, (Day.after days).weekday) ∈ weekdays := by
  have hlt := Nat.mod_lt days (by decide : 0 < 7)
  rw [Day.weekday_after, weekdayName]
  generalize days % 7 = day at hlt
  interval_cases day <;> decide

namespace Reader

theorem takes_time (h : time.IsValid) (micro : Nat) :
    Takes (Reader.time micro) (timeText time) { time with micro } := by
  have hhour : time.hour < 100 := h.hour.trans (by decide)
  have hminute : time.minute < 100 := h.minute.trans (by decide)
  have hsecond : time.second < 100 := h.second.trans (by decide)
  simp only [timeText, String.append_assoc]
  refine (takes_number (by decide) hhour).bind ((takes_literal _).bind ?_)
  refine (takes_number (by decide) hminute).bind ((takes_literal _).bind ?_)
  exact (takes_number (by decide) hsecond).bind_pure rfl

theorem takes_zone {ahead : Int} (hminutes : ahead.natAbs % 60 = 0) (h : ahead.natAbs < 360000) :
    Takes zone (zoneText ahead) ahead := by
  have hsign : Takes (choice [("+", (1 : Int)), ("-", -1)]) (if ahead < 0 then "-" else "+")
      (if ahead < 0 then -1 else 1) := by
    split
    · exact takes_choice 1 (by decide) (by decide) (by simp)
    · exact takes_choice 1 (by decide) (by decide) (by simp)
  have hhours : ahead.natAbs / 3600 < 100 := by omega
  have hrest : ahead.natAbs / 60 % 60 < 100 := by omega
  simp only [zoneText, String.append_assoc, if_pos hminutes, String.append_empty]
  refine hsign.bind ((takes_number (by decide) hhours).bind ?_)
  refine (takes_number (by decide) hrest).bind_pure ?_
  have hseconds : ahead.natAbs / 3600 * 3600 + ahead.natAbs / 60 % 60 * 60 = ahead.natAbs := by omega
  simp only [hseconds]
  rw [if_neg]
  · refine congrArg pure ?_
    split <;> omega
  · split <;> omega

theorem moment_eq_pure (hdate : date.IsValid) (htime : time.IsValid) (ahead : Int) :
    moment date time ahead = pure (.ofDate date time ahead) := if_pos ⟨hdate, htime⟩

variable (hdate : date.IsValid) (hyear : date.year < 10000) (htime : time.IsValid)
include hdate hyear htime

theorem takes_iso8601 : Takes iso8601
    (padded 4 date.year ++ "-" ++ padded 2 date.month ++ "-" ++ padded 2 date.day ++ "T"
      ++ timeText time ++ "." ++ padded 3 (time.micro / 1000) ++ "Z")
    (.ofDate date { time with micro := time.micro / 1000 * 1000 } 0) := by
  have hmonth : date.month < 100 := hdate.month.2.trans_lt (by decide)
  have hday : date.day < 100 := hdate.day_le.trans_lt (by decide)
  have hmillis : time.micro / 1000 < 1000 := Nat.div_lt_of_lt_mul htime.micro
  have hcut : ({ time with micro := time.micro / 1000 * 1000 } : TimeOfDay).IsValid :=
    { htime with micro := (Nat.div_mul_le_self _ _).trans_lt htime.micro }
  simp only [String.append_assoc]
  refine (takes_number (by decide) hyear).bind ((takes_literal _).bind ?_)
  refine (takes_number (by decide) hmonth).bind ((takes_literal _).bind ?_)
  refine (takes_number (by decide) hday).bind ((takes_literal _).bind ?_)
  refine (takes_time htime 0).bind ((takes_literal _).bind ?_)
  refine (takes_number (by decide) hmillis).bind ?_
  exact (takes_literal _).bind_pure (moment_eq_pure hdate hcut 0)

theorem takes_rfc1123 {weekday : String} {day : Weekday} (hweekday : (weekday, day) ∈ weekdays)
    {ahead : Int} (hminutes : ahead.natAbs % 60 = 0) (hahead : ahead.natAbs < 360000) : Takes rfc1123
    (weekday ++ ", " ++ padded 2 date.day ++ " " ++ date.monthName ++ " " ++ padded 4 date.year ++ " "
      ++ timeText time ++ " " ++ zoneText ahead)
    (day, .ofDate date { time with micro := 0 } ahead) := by
  have hmonth := hdate.monthName_mem
  have hday : date.day < 100 := hdate.day_le.trans_lt (by decide)
  have hcut : ({ time with micro := 0 } : TimeOfDay).IsValid := { htime with micro := Nat.succ_pos _ }
  simp only [String.append_assoc]
  refine (takes_choice 3 (by decide) (by decide) hweekday).bind ((takes_literal _).bind ?_)
  refine (takes_number (by decide) hday).bind ((takes_literal _).bind ?_)
  refine (takes_choice 3 (by decide) (by decide) hmonth).bind ((takes_literal _).bind ?_)
  refine (takes_number (by decide) hyear).bind ((takes_literal _).bind ?_)
  refine (takes_time htime 0).bind ((takes_literal _).bind ?_)
  refine (takes_zone hminutes hahead).bind_pure ?_
  rw [moment_eq_pure hdate hcut]
  rfl

end Reader

end Fields

section Moments

variable {wall : Int}

def timeOf (wall : Int) : TimeOfDay := .ofMicros (wall % 86400000000).toNat

theorem isValid_timeOf (wall : Int) : (timeOf wall).IsValid := by
  constructor <;> simp only [timeOf, TimeOfDay.ofMicros] <;> omega

theorem micro_timeOf (wall : Int) : ((timeOf wall).micro : Int) = wall % 1000000 := by
  simp only [timeOf, TimeOfDay.ofMicros]
  omega

theorem dayAndTime_eq (h : 0 ≤ wall) :
    Moment.dayAndTime wall = ((wall / 86400000000).toNat, timeOf wall) := by
  have hday : wall.toNat / 86400000000 = (wall / 86400000000).toNat := by omega
  have hrest : wall.toNat % 86400000000 = (wall % 86400000000).toNat := by omega
  simp only [Moment.dayAndTime, timeOf, hday, hrest]

theorem ofDate_dayOf (h : 0 ≤ wall) (micro : Nat) (ahead : Int) :
    Moment.ofDate (dayOf wall).date { timeOf wall with micro } ahead =
      ⟨wall - wall % 1000000 + micro, ahead⟩ := by
  simp only [Moment.ofDate, dayOf, Day.toDays_after, TimeOfDay.toMicros, timeOf, TimeOfDay.ofMicros,
    secondsPerDay, microsPerSecond, Moment.mk.injEq, and_true]
  omega

theorem year_lt_of_inCalendar (h : inCalendar wall = true) : (dayOf wall).date.year < 10000 :=
  Nat.lt_succ_of_le (inCalendar_iff_year.1 h).2

namespace Moment

variable {m : Moment}

theorem ofIso8601?_iso8601 (h : inCalendar m.universal = true) : ∃ text, iso8601 m = .ok text ∧
    ofIso8601? text = some ⟨m.universal - m.universal % 1000, 0⟩ := by
  have hle := (inCalendar_iff_year.1 h).1
  have htakes := Reader.takes_iso8601 (Day.isValid_after (m.universal / 86400000000).toNat)
    (year_lt_of_inCalendar h) (isValid_timeOf m.universal)
  refine ⟨_, ?_, htakes.whole_eq.trans (congrArg some ?_)⟩
  · simp only [iso8601, if_pos h, dayAndTime_eq hle, Day.ofDays_eq_after]
  · have hmicro := micro_timeOf m.universal
    refine (ofDate_dayOf hle _ 0).trans ?_
    rw [Moment.mk.injEq, and_iff_left rfl]
    omega

theorem ofRfc1123?_rfc1123 (h : inCalendar m.wall = true) (hminutes : m.ahead.natAbs % 60 = 0)
    (hahead : m.ahead.natAbs < 360000) : ofRfc1123? (rfc1123 m) =
      some ((dayOf m.wall).weekday, ⟨m.wall - m.wall % 1000000, m.ahead⟩) := by
  have hle := (inCalendar_iff_year.1 h).1
  have htakes := Reader.takes_rfc1123 (Day.isValid_after (m.wall / 86400000000).toNat)
    (year_lt_of_inCalendar h) (isValid_timeOf m.wall)
    (weekdayName_mem (m.wall / 86400000000).toNat) hminutes hahead
  simp only [rfc1123, dayAndTime_eq hle, Day.ofDays_eq_after]
  refine htakes.whole_eq.trans (congrArg some (Prod.ext rfl ?_))
  rw [← Int.add_zero (m.wall - m.wall % 1000000)]
  exact ofDate_dayOf hle 0 m.ahead

end Moment

end Moments

end TemplatedRequests.Clock

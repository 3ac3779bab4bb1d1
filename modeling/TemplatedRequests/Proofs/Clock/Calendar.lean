import Mathlib.Algebra.BigOperators.Group.List.Basic
import Mathlib.Algebra.GroupWithZero.Nat
import Mathlib.Dynamics.PeriodicPts.Defs
import TemplatedRequests.Clock.Moment

/-!
The Gregorian calendar from day to day. It starts with a Monday, the first of January of year 1, and
each day tells the date and the weekday of the next one. Counting the days before a date, and finding
the date after a number of days, are the two ways through this calendar.
-/

namespace TemplatedRequests.Clock

def monthLength (year month : Nat) : Nat := ((monthLengths year)[month - 1]?).getD 0

def yearLength (year : Nat) : Nat := if isLeap year then 366 else 365

inductive Weekday where
  | monday
  | tuesday
  | wednesday
  | thursday
  | friday
  | saturday
  | sunday
  deriving DecidableEq, Repr

def Weekday.next : Weekday → Weekday
  | monday => tuesday
  | tuesday => wednesday
  | wednesday => thursday
  | thursday => friday
  | friday => saturday
  | saturday => sunday
  | sunday => monday

namespace Date

structure IsValid (d : Date) : Prop where
  year : 0 < d.year
  month : 1 ≤ d.month ∧ d.month ≤ 12
  day : 1 ≤ d.day ∧ d.day ≤ monthLength d.year d.month

theorem isValid_iff {d : Date} : d.IsValid ↔ 0 < d.year ∧ (1 ≤ d.month ∧ d.month ≤ 12) ∧
    1 ≤ d.day ∧ d.day ≤ monthLength d.year d.month :=
  ⟨fun h => ⟨h.year, h.month, h.day⟩, fun ⟨hy, hm, hd⟩ => ⟨hy, hm, hd⟩⟩

instance (d : Date) : Decidable d.IsValid := decidable_of_iff' _ isValid_iff

/-- The next day is in the same month, or the first one of the next month or year. -/
def next (d : Date) : Date :=
  if d.day < monthLength d.year d.month then ⟨d.year, d.month, d.day + 1⟩
  else if d.month < 12 then ⟨d.year, d.month + 1, 1⟩
  else ⟨d.year + 1, 1, 1⟩

end Date

/-- A day with its place in the year and in the week. -/
structure Day where
  date : Date
  weekday : Weekday
  deriving DecidableEq, Repr

namespace Day

def first : Day := ⟨⟨1, 1, 1⟩, .monday⟩

def next (d : Day) : Day := ⟨d.date.next, d.weekday.next⟩

/-- The day that comes a number of days after the first one. -/
def after (days : Nat) : Day := next^[days] first

theorem after_succ (days : Nat) : after (days + 1) = (after days).next :=
  Function.iterate_succ_apply' next days first

end Day

section Years

variable {year days : Nat}

theorem succ_div_eq (n k : Nat) : (n + 1) / k = n / k + if (n + 1) % k = 0 then 1 else 0 := by
  rw [Nat.succ_div]
  simp only [Nat.dvd_iff_mod_eq_zero]

theorem daysBeforeYear_succ (h : 0 < year) :
    daysBeforeYear (year + 1) = daysBeforeYear year + yearLength year := by
  obtain ⟨y, rfl⟩ : ∃ y, year = y + 1 := ⟨year - 1, by omega⟩
  have hle : y / 100 ≤ y / 4 := Nat.div_le_div_left (by decide) (by decide)
  have hcentury : (y + 1) % 100 = 0 → (y + 1) % 4 = 0 := by omega
  have hfour : (y + 1) % 400 = 0 → (y + 1) % 100 = 0 := by omega
  simp only [daysBeforeYear, yearLength, isLeap, Nat.add_sub_cancel, succ_div_eq]
  -- Only the three quotients are left in the sums, and they need not be looked into.
  generalize y / 100 = centuries at *
  generalize y / 4 = fours at *
  by_cases h4 : (y + 1) % 4 = 0 <;> by_cases h100 : (y + 1) % 100 = 0 <;>
    by_cases h400 : (y + 1) % 400 = 0 <;> simp [h4, h100, h400] at hcentury hfour ⊢ <;> omega

theorem daysBeforeYear_lt_succ (h : 0 < year) : daysBeforeYear year < daysBeforeYear (year + 1) := by
  rw [daysBeforeYear_succ h, yearLength]
  split <;> omega

theorem daysBeforeYear_le {later : Nat} (h : 0 < year) (hle : year ≤ later) :
    daysBeforeYear year ≤ daysBeforeYear later := by
  induction hle with
  | refl => exact Nat.le_refl _
  | step hle ih => exact Nat.le_trans ih (daysBeforeYear_lt_succ (Nat.lt_of_lt_of_le h hle)).le

theorem daysBeforeYear_cycles (n400 : Nat) {n100 n4 n1 : Nat} (h100 : n100 ≤ 3) (h4 : n4 ≤ 24)
    (h1 : n1 ≤ 3) : daysBeforeYear (n400 * 400 + n100 * 100 + n4 * 4 + n1 + 1) =
      n400 * 146097 + n100 * 36524 + n4 * 1461 + n1 * 365 := by
  simp only [daysBeforeYear, Nat.add_sub_cancel]
  omega

theorem isLeap_cycles (n400 : Nat) {n100 n4 : Nat} (h4 : n4 ≤ 24) (h : n4 = 24 → n100 = 3) :
    isLeap (n400 * 400 + n100 * 100 + n4 * 4 + 3 + 1) = true := by
  simp only [isLeap, Bool.and_eq_true, Bool.or_eq_true, beq_iff_eq, bne_iff_ne]
  omega

/-- Cycles of years up to a day, and the days left of the last year. -/
theorem exists_cycles (days : Nat) : ∃ n400 n100 n4 n1 rest, n100 ≤ 3 ∧ n4 ≤ 24 ∧ n1 ≤ 3 ∧
    yearOfDay days = n400 * 400 + n100 * 100 + n4 * 4 + n1 + 1 ∧
    days = n400 * 146097 + n100 * 36524 + n4 * 1461 + n1 * 365 + rest ∧
    rest ≤ 365 ∧ (rest = 365 → n1 = 3 ∧ (n4 = 24 → n100 = 3)) := by
  obtain ⟨r400, hr400⟩ : ∃ r, r = days % 146097 := ⟨_, rfl⟩
  obtain ⟨n100, hn100⟩ : ∃ n, n = min (r400 / 36524) 3 := ⟨_, rfl⟩
  obtain ⟨r100, hr100⟩ : ∃ r, r = r400 - n100 * 36524 := ⟨_, rfl⟩
  obtain ⟨r4, hr4⟩ : ∃ r, r = r100 % 1461 := ⟨_, rfl⟩
  obtain ⟨n1, hn1⟩ : ∃ n, n = min (r4 / 365) 3 := ⟨_, rfl⟩
  have hyear : yearOfDay days = days / 146097 * 400 + n100 * 100 + r100 / 1461 * 4 + n1 + 1 := by
    subst hn1 hr4 hr100 hn100 hr400
    rfl
  refine ⟨days / 146097, n100, r100 / 1461, n1, r4 - n1 * 365, by omega, by omega, by omega, hyear, ?_⟩
  have hcentury : r400 = n100 * 36524 + r100 ∧ r100 ≤ 36524 ∧ (n100 < 3 → r100 < 36524) := by omega
  have hfour : r100 = r100 / 1461 * 1461 + r4 ∧ r4 < 1461 := by omega
  have hone : r4 = n1 * 365 + (r4 - n1 * 365) ∧ r4 - n1 * 365 ≤ 365 ∧
    (r4 - n1 * 365 = 365 → n1 = 3 ∧ r4 = 1460) := by omega
  clear hyear hn1 hr4 hn100 hr100
  omega

theorem yearOfDay_spec (days : Nat) : daysBeforeYear (yearOfDay days) ≤ days ∧
    days < daysBeforeYear (yearOfDay days + 1) := by
  obtain ⟨n400, n100, n4, n1, rest, h100, h4, h1, hyear, hdays, hrest, hlast⟩ := exists_cycles days
  have hbefore := daysBeforeYear_cycles n400 h100 h4 h1
  rw [hyear, daysBeforeYear_succ (Nat.succ_pos _), hbefore, yearLength]
  by_cases h : rest = 365
  · obtain ⟨rfl, hcentury⟩ := hlast h
    rw [if_pos (isLeap_cycles n400 h4 hcentury)]
    omega
  · split <;> omega

theorem yearOfDay_lt_iff (h : 0 < year) : yearOfDay days < year ↔ days < daysBeforeYear year := by
  obtain ⟨hfirst, hlast⟩ := yearOfDay_spec days
  constructor
  · intro hlt
    exact Nat.lt_of_lt_of_le hlast (daysBeforeYear_le (Nat.succ_pos _) hlt)
  · intro hlt
    by_contra hle
    have := daysBeforeYear_le h (Nat.le_of_not_lt hle)
    omega

theorem yearOfDay_eq (h : 0 < year) (hfirst : daysBeforeYear year ≤ days)
    (hlast : days < daysBeforeYear (year + 1)) : yearOfDay days = year := by
  have hlt := (yearOfDay_lt_iff (Nat.succ_pos year)).2 hlast
  have hle := mt (yearOfDay_lt_iff h).1 (Nat.not_lt.2 hfirst)
  omega

end Years

section Months

theorem length_monthLengths (year : Nat) : (monthLengths year).length = 12 := rfl

theorem sum_monthLengths (year : Nat) : (monthLengths year).sum = yearLength year := by
  rw [monthLengths, yearLength]
  split <;> rfl

theorem getElem?_monthLengths (year : Nat) {month : Nat} (h : month ≤ 12) :
    (monthLengths year)[month - 1]? = some (monthLength year month) := by
  have hlt : month - 1 < (monthLengths year).length := by
    rw [length_monthLengths]
    omega
  rw [monthLength, List.getElem?_eq_getElem hlt, Option.getD_some]

theorem monthLength_pos (year : Nat) {month : Nat} (h : month ≤ 12) : 0 < monthLength year month := by
  have hall : ∀ l ∈ monthLengths year, 0 < l := by
    unfold monthLengths
    split <;> decide
  exact hall _ (List.mem_of_getElem? (getElem?_monthLengths year h))

theorem sum_take_month (year : Nat) {month : Nat} (h : 1 ≤ month ∧ month ≤ 12) :
    ((monthLengths year).take month).sum =
      ((monthLengths year).take (month - 1)).sum + monthLength year month := by
  obtain ⟨before, rfl⟩ : ∃ before, month = before + 1 := ⟨month - 1, by omega⟩
  have hget := getElem?_monthLengths year h.2
  rw [Nat.add_sub_cancel] at hget ⊢
  rw [List.take_add_one, hget, List.sum_append, Option.toList_some, List.sum_singleton]

theorem inMonths_sum_take (start : Nat) {ls : List Nat} {i l k : Nat} (hi : ls[i]? = some l)
    (hk : k < l) : inMonths start ls ((ls.take i).sum + k) = (start + i, k + 1) := by
  -- By induction on the months: a day within a month is found in it.
  induction ls generalizing start i with
  | nil => cases hi
  | cons first rest ih =>
    cases i with
    | zero =>
      obtain rfl : first = l := Option.some.inj hi
      cases rest <;> simp [inMonths, hk]
    | succ i =>
      have hrest := ih (start + 1) hi
      cases rest with
      | nil => cases hi
      | cons second rest =>
        rw [List.take_succ_cons, List.sum_cons, inMonths, if_neg (by omega), Nat.add_assoc,
          Nat.add_sub_cancel_left, hrest, Nat.add_right_comm, Nat.add_assoc]
        exact List.cons_ne_nil second rest

end Months

namespace Date

variable {d : Date}

theorem toDays_eq (d : Date) : d.toDays =
    daysBeforeYear d.year + ((monthLengths d.year).take (d.month - 1)).sum + (d.day - 1) := by
  rw [toDays, List.foldl_eq_apply_foldr]
  rfl

namespace IsValid

variable (h : d.IsValid)
include h

theorem toDays_lt : d.toDays < daysBeforeYear (d.year + 1) := by
  have hday := h.day
  have hle : ((monthLengths d.year).take d.month).sum ≤ yearLength d.year := by
    rw [← sum_monthLengths, ← List.sum_take_add_sum_drop (monthLengths d.year) d.month]
    exact Nat.le_add_right _ _
  rw [sum_take_month d.year h.month] at hle
  rw [toDays_eq, daysBeforeYear_succ h.year]
  omega

theorem yearOfDay_toDays : yearOfDay d.toDays = d.year := by
  refine yearOfDay_eq h.year ?_ h.toDays_lt
  rw [toDays_eq]
  omega

theorem ofDays_toDays : ofDays d.toDays = d := by
  have hmonth := h.month
  have hday := h.day
  have hleft : d.toDays - daysBeforeYear d.year =
      ((monthLengths d.year).take (d.month - 1)).sum + (d.day - 1) := by
    rw [toDays_eq]
    omega
  have hfound := inMonths_sum_take 1 (getElem?_monthLengths d.year hmonth.2)
    (Nat.sub_one_lt_of_le hday.1 hday.2)
  simp only [ofDays, h.yearOfDay_toDays, hleft, hfound, Nat.add_sub_cancel' hmonth.1,
    Nat.sub_add_cancel hday.1]

protected theorem next : d.next.IsValid := by
  have hmonth := h.month
  unfold Date.next
  split
  · exact ⟨h.year, h.month, by dsimp; omega⟩
  · split
    · have hlater : d.month + 1 ≤ 12 := by omega
      exact ⟨h.year, ⟨Nat.le_add_left 1 _, hlater⟩, Nat.le_refl 1, monthLength_pos d.year hlater⟩
    · have hfirst : 1 ≤ 12 := by decide
      exact ⟨Nat.succ_pos _, ⟨Nat.le_refl 1, hfirst⟩, Nat.le_refl 1, monthLength_pos _ hfirst⟩

theorem toDays_next : d.next.toDays = d.toDays + 1 := by
  have hmonth := h.month
  have hday := h.day
  unfold Date.next
  split
  · simp only [toDays_eq]
    omega
  · have hlast : d.day = monthLength d.year d.month := by omega
    split
    · simp only [toDays_eq, Nat.add_sub_cancel, sum_take_month d.year hmonth]
      omega
    · have hall : ((monthLengths d.year).take d.month).sum = yearLength d.year := by
        rw [List.take_of_length_le (by rw [length_monthLengths]; omega), sum_monthLengths]
      rw [sum_take_month d.year hmonth] at hall
      simp only [toDays_eq, daysBeforeYear_succ h.year, List.take_zero, List.sum_nil, Nat.sub_self]
      omega

end IsValid

end Date

namespace Day

theorem isValid_after (days : Nat) : (after days).date.IsValid := by
  induction days with
  | zero => decide
  | succ days ih =>
    rw [after_succ]
    exact ih.next

theorem toDays_after (days : Nat) : (after days).date.toDays = days := by
  induction days with
  | zero => decide
  | succ days ih => rw [after_succ, next, (isValid_after days).toDays_next, ih]

/-- The date that is found for a number of days is the one that the calendar comes to. -/
theorem ofDays_eq_after (days : Nat) : Date.ofDays days = (after days).date := by
  rw [← (isValid_after days).ofDays_toDays, toDays_after]

theorem year_after (days : Nat) : (after days).date.year = yearOfDay days := by
  rw [← (isValid_after days).yearOfDay_toDays, toDays_after]

theorem weekday_after (days : Nat) : (after days).weekday = Weekday.next^[days % 7] .monday := by
  have hstep : (after days).weekday = Weekday.next^[days] .monday := by
    induction days with
    | zero => rfl
    | succ days ih => rw [after_succ, next, ih, Function.iterate_succ_apply']
  have hweek : Function.IsPeriodicPt Weekday.next 7 .monday := by decide
  rw [hstep, hweek.iterate_mod_apply]

example : (after (Date.toDays ⟨2026, 10, 19⟩)).weekday = .monday := by
  rw [weekday_after]
  decide

theorem year_after_le_iff (days : Nat) : (after days).date.year ≤ 9999 ↔ days < calendarDays := by
  rw [year_after, ← Nat.lt_succ_iff, yearOfDay_lt_iff (by decide)]
  rfl

end Day

section Moments

variable {micros : Int}

theorem inCalendar_iff : inCalendar micros = true ↔ 0 ≤ micros ∧ micros < 315537897600000000 := by
  have hend : calendarEnd = 315537897600000000 := by decide
  rw [inCalendar, hend, Bool.and_eq_true, decide_eq_true_eq, decide_eq_true_eq]

def dayOf (micros : Int) : Day := .after (micros / 86400000000).toNat

theorem inCalendar_iff_year : inCalendar micros = true ↔ 0 ≤ micros ∧ (dayOf micros).date.year ≤ 9999 := by
  rw [inCalendar_iff, dayOf, Day.year_after_le_iff, calendarDays]
  omega

end Moments

end TemplatedRequests.Clock

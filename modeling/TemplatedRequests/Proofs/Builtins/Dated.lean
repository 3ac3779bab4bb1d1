import TemplatedRequests.Proofs.Builtins.Shifted
import TemplatedRequests.Proofs.Clock.Written

/-!
The date that is told after an offset, in both formats. They tell the same moment, the clock moved by
exactly the offset, one to the millisecond and the other one to the second and with the weekday. Where
the offset is too long or leads out of the calendar, both are refused alike.
-/

namespace TemplatedRequests.Builtins

open Clock

/-- Arguments without an offset, or with one, and the seconds that they move a clock by. -/
inductive Moves : (args : List String) → (seconds : Int) → Prop
  | still : Moves [] 0
  | offset {args : List String} {seconds : Int} (h : Offset.Asks args seconds) : Moves args seconds

/-- The moment lies in the years that are told, 1 to 9999. -/
def IsTold (wall : Int) : Prop := 0 ≤ wall ∧ (dayOf wall).date.year ≤ 9999

section Shift

variable {now : Moment} {args : List String} {seconds : Int}

theorem shiftedNow_of_moves (hnow : inCalendar now.wall = true) (h : Moves args seconds) :
    shiftedNow now args = .ok (moved now seconds) ∧ inCalendar (moved now seconds).wall = true ∨
    inCalendar (moved now seconds).wall = false ∧ ∃ fault detail,
      fault.report? = some ⟨.invalidOffset, detail⟩ ∧ shiftedNow now args = .error fault := by
  cases h with
  | still =>
    have hsame : moved now 0 = now := by simp [moved]
    rw [hsame]
    exact .inl ⟨rfl, hnow⟩
  | offset h =>
    rw [shiftedNow_of_asks hnow h]
    by_cases hin : inCalendar (moved now seconds).wall = true
    · exact .inl ⟨if_pos hin, hin⟩
    · exact .inr ⟨Bool.eq_false_iff.2 hin, _, _, rfl, if_neg hin⟩

theorem isTold_moved_iff (hnow : inCalendar now.wall = true) :
    Offset.Fits seconds ∧ IsTold (moved now seconds).wall ↔ inCalendar (moved now seconds).wall = true := by
  rw [IsTold, ← inCalendar_iff_year]
  exact and_iff_right_of_imp (fits_of_inCalendar hnow)

end Shift

def dated (s : Surroundings) (state : State) (format : String) (args : List String) :
    Except Fault String := ((call s "datetime" (format :: args)).run.run state).1

theorem dated_of_error {s : Surroundings} {args : List String} {fault : Fault}
    (h : shiftedNow s.now args = .error fault) (state : State) (format : String) :
    dated s state format args = .error fault := by
  change datetime s.now (format :: args) = _
  rw [datetime, h]

theorem dated_of_ok {s : Surroundings} {args : List String} {m : Moment}
    (h : shiftedNow s.now args = .ok m) (state : State) :
    dated s state "rfc1123" args = .ok (rfc1123 m) ∧ dated s state "iso8601" args = iso8601 m := by
  change datetime s.now ("rfc1123" :: args) = _ ∧ datetime s.now ("iso8601" :: args) = _
  simp [datetime, h]

section Moved

variable {s : Surroundings} {args : List String} {seconds : Int}
variable (hnow : IsUniversal s.now) (hargs : Moves args seconds) (state : State)
include hnow hargs

theorem dated_of_not_isTold (h : ¬Offset.Fits seconds ∨ ¬IsTold (moved s.now seconds).wall) :
    ∃ fault detail, fault.report? = some ⟨.invalidOffset, detail⟩ ∧
      dated s state "iso8601" args = .error fault ∧ dated s state "rfc1123" args = .error fault := by
  rw [← not_and_or, isTold_moved_iff hnow.2] at h
  obtain ⟨-, hin⟩ | ⟨-, fault, detail, hreport, hshifted⟩ := shiftedNow_of_moves hnow.2 hargs
  · exact absurd hin h
  · exact ⟨fault, detail, hreport, dated_of_error hshifted state _, dated_of_error hshifted state _⟩

theorem dated_of_isTold (hfits : Offset.Fits seconds) (htold : IsTold (moved s.now seconds).wall) :
    ∃ iso rfc,
      dated s state "iso8601" args = .ok iso ∧ dated s state "rfc1123" args = .ok rfc ∧
      Moment.ofIso8601? iso =
        some ⟨(moved s.now seconds).wall - (moved s.now seconds).wall % 1000, 0⟩ ∧
      Moment.ofRfc1123? rfc = some ((dayOf (moved s.now seconds).wall).weekday,
        ⟨(moved s.now seconds).wall - (moved s.now seconds).wall % 1000000, 0⟩) := by
  have hin := (isTold_moved_iff hnow.2).1 ⟨hfits, htold⟩
  obtain ⟨hshifted, -⟩ | ⟨hout, -⟩ := shiftedNow_of_moves hnow.2 hargs
  · have huniversal : (moved s.now seconds).universal = (moved s.now seconds).wall := by
      simp [Moment.universal, moved, hnow.1]
    have hahead : (moved s.now seconds).ahead = 0 := hnow.1
    obtain ⟨hrfc, hiso⟩ := dated_of_ok hshifted state
    obtain ⟨iso, htext, hread⟩ := Moment.ofIso8601?_iso8601 (huniversal ▸ hin)
    have hread' := Moment.ofRfc1123?_rfc1123 hin (by simp [hahead]) (by simp [hahead])
    rw [huniversal] at hread
    rw [hahead] at hread'
    exact ⟨iso, _, hiso.trans htext, hrfc, hread, hread'⟩
  · cases hin.symm.trans hout

end Moved

/-- Both formats tell the clock moved by the offset, cut to what they show, or both end in the same
fault of an offset. They do so exactly if the offset is too long or the moved clock leaves the years
that are told. -/
theorem dated_tells_moved_or_refuses {s : Surroundings} {args : List String} {seconds : Int}
    (hnow : IsUniversal s.now) (hargs : Moves args seconds) (state : State) :
    (¬Offset.Fits seconds ∨ ¬IsTold (moved s.now seconds).wall → ∃ fault detail,
      fault.report? = some ⟨.invalidOffset, detail⟩ ∧
      dated s state "iso8601" args = .error fault ∧ dated s state "rfc1123" args = .error fault) ∧
    (Offset.Fits seconds → IsTold (moved s.now seconds).wall → ∃ iso rfc,
      dated s state "iso8601" args = .ok iso ∧ dated s state "rfc1123" args = .ok rfc ∧
      Moment.ofIso8601? iso =
        some ⟨(moved s.now seconds).wall - (moved s.now seconds).wall % 1000, 0⟩ ∧
      Moment.ofRfc1123? rfc = some ((dayOf (moved s.now seconds).wall).weekday,
        ⟨(moved s.now seconds).wall - (moved s.now seconds).wall % 1000000, 0⟩)) :=
  ⟨dated_of_not_isTold hnow hargs state, dated_of_isTold hnow hargs state⟩

/-- The first moment of March in a leap year, and a microsecond. -/
def afterLeapDay : Surroundings := { now := ⟨63844848000000001, 0⟩ }

/-- A second earlier it is the leap day, a Thursday. Too many days later no format tells the date. -/
theorem dated_afterLeapDay : IsUniversal afterLeapDay.now ∧ Moves ["-1", "s", "more"] (-1 * 1) ∧
    Moves ["2920000", "d"] (2920000 * 86400) ∧
    (∃ iso rfc, dated afterLeapDay {} "iso8601" ["-1", "s", "more"] = .ok iso ∧
      dated afterLeapDay {} "rfc1123" ["-1", "s", "more"] = .ok rfc ∧
      Moment.ofIso8601? iso = some ⟨63844847999000000, 0⟩ ∧
      Moment.ofRfc1123? rfc = some (.thursday, ⟨63844847999000000, 0⟩)) ∧
    ∃ fault detail, fault.report? = some ⟨.invalidOffset, detail⟩ ∧
      dated afterLeapDay {} "iso8601" ["2920000", "d"] = .error fault ∧
      dated afterLeapDay {} "rfc1123" ["2920000", "d"] = .error fault := by
  have hnow : IsUniversal afterLeapDay.now := ⟨rfl, by decide⟩
  have hback : Moves ["-1", "s", "more"] (-1 * 1) := .offset (.intro rfl (by decide) _)
  have hlate : Moves ["2920000", "d"] (2920000 * 86400) := .offset (.intro rfl (by decide) _)
  have hwall : (moved afterLeapDay.now (-1 * 1)).wall = 63844847999000001 := by decide
  obtain ⟨-, htold⟩ := dated_tells_moved_or_refuses hnow hback {}
  obtain ⟨hrefused, -⟩ := dated_tells_moved_or_refuses hnow hlate {}
  have hweekday : (dayOf 63844847999000001).weekday = .thursday := by
    rw [dayOf, Day.weekday_after]
    decide
  rw [hwall, hweekday] at htold
  refine ⟨hnow, hback, hlate, htold (by decide) (inCalendar_iff_year.1 (by decide)), hrefused ?_⟩
  exact .inr fun h => absurd (inCalendar_iff_year.2 h) (by decide)

end TemplatedRequests.Builtins

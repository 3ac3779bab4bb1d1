import TemplatedRequests.Proofs.Builtins.Classified
import TemplatedRequests.Proofs.Clock.Calendar
import TemplatedRequests.Proofs.Clock.Offset
import TemplatedRequests.Proofs.Clock.Timestamp

/-!
The time that is told after an offset. The clock is moved by exactly the offset; the seconds that are
told move with it, unless one of the two moments is told as the second it lies in and the other one as
the second after it.
-/

namespace TemplatedRequests.Builtins

open Clock

def moved (now : Moment) (seconds : Int) : Moment :=
  { now with wall := now.wall + seconds * microsPerSecond }

section Shift

variable {now : Moment} {amount unit : String} {n : Int} {u : TimeUnit}

theorem wall_moved (seconds : Int) : (moved now seconds).wall = now.wall + seconds * 1000000 := rfl

theorem fits_of_inCalendar {seconds : Int} (hnow : inCalendar now.wall = true)
    (hin : inCalendar (moved now seconds).wall = true) : Offset.Fits seconds := by
  rw [inCalendar_iff] at hnow
  rw [wall_moved, inCalendar_iff] at hin
  simp only [Offset.Fits]
  omega

theorem shiftedNow_of_asks {args : List String} {seconds : Int} (hnow : inCalendar now.wall = true)
    (h : Offset.Asks args seconds) : shiftedNow now args =
      if inCalendar (moved now seconds).wall = true then .ok (moved now seconds)
      else .error (.offsetOutOfRange (args[0]?.getD "") (args[1]?.getD "")) := by
  have hshift : now.shift? seconds =
      if inCalendar (moved now seconds).wall = true then some (moved now seconds) else none := rfl
  have hargs : ∃ amount unit more, args = amount :: unit :: more := by
    cases h
    exact ⟨_, _, _, rfl⟩
  obtain ⟨amount, unit, more, rfl⟩ := hargs
  by_cases hfits : Offset.Fits seconds
  · simp only [shiftedNow, Offset.parse_of_asks h hfits, Offset.toSeconds_ofSeconds, hshift]
    by_cases hin : inCalendar (moved now seconds).wall = true
    · simp only [if_pos hin]
    · simp only [if_neg hin]
  · have hin := mt (fits_of_inCalendar hnow) hfits
    simp only [shiftedNow, Offset.parse_of_refuses (.days h hfits), if_neg hin]
    rfl

section Calendar

variable (hnow : inCalendar now.wall = true) (hin : inCalendar (moved now (n * u.seconds)).wall = true)
include hnow hin

theorem natAbs_lt_of_inCalendar : n.natAbs < 10 ^ 12 := by
  rw [inCalendar_iff] at hnow
  rw [wall_moved, inCalendar_iff] at hin
  cases u <;> simp only [TimeUnit.seconds] at hin <;> omega

theorem parse_of_inCalendar : Numeral.parse (toString n).toList = .ok (some n) := by
  have hlength := (Numeral.length_toString_le_iff (by decide)).2 (natAbs_lt_of_inCalendar hnow hin)
  exact Numeral.parse_toString (hlength.trans (by decide))

theorem shiftedNow_eq (hamount : Numeral.parse amount.toList = .ok (some n))
    (hunit : TimeUnit.ofText? unit = some u) :
    shiftedNow now [amount, unit] = .ok (moved now (n * u.seconds)) := by
  have hasks : Offset.Asks [amount, unit] (n * u.seconds) :=
    .intro hamount (mem_unitLengths_iff.2 ⟨u, hunit, rfl⟩) []
  rw [shiftedNow_of_asks hnow hasks, if_pos hin]

end Calendar

theorem sinceEpoch_moved (seconds : Int) :
    (moved now seconds).sinceEpoch = now.sinceEpoch + seconds * 1000000 := by
  simp only [Moment.sinceEpoch, Moment.universal, moved, microsPerSecond]
  omega

theorem timestamp_of_isUniversal {m : Moment} (h : IsUniversal m) : m.timestamp =
    m.sinceEpoch / 1000000 + if IsToldAsNext m.sinceEpoch then 1 else 0 := by
  refine timestamp_eq ?_
  have hepoch : Moment.epoch = 62135596800000000 := by decide
  have hwall := inCalendar_iff.1 h.2
  simp only [Moment.sinceEpoch, Moment.universal, h.1, hepoch]
  omega

theorem one_or_zero_eq_iff {p q : Prop} [Decidable p] [Decidable q] :
    (if p then 1 else 0 : Int) = (if q then 1 else 0) ↔ (p ↔ q) := by
  by_cases hp : p <;> by_cases hq : q <;> simp [hp, hq]

end Shift

section Call

variable {s : Surroundings} {amount unit : String} {n : Int} {u : TimeUnit}

theorem call_timestamp (s : Surroundings) (state : State) :
    ((call s "timestamp" []).run.run state).1 = .ok (toString s.now.timestamp) := rfl

theorem call_timestamp_of_offset (hnow : inCalendar s.now.wall = true)
    (hamount : Numeral.parse amount.toList = .ok (some n)) (hunit : TimeUnit.ofText? unit = some u)
    (hin : inCalendar (moved s.now (n * u.seconds)).wall = true) (state : State) :
    ((call s "timestamp" [amount, unit]).run.run state).1 =
      .ok (toString (moved s.now (n * u.seconds)).timestamp) := by
  change timestamp s.now [amount, unit] = _
  rw [timestamp, shiftedNow_eq hnow hin hamount hunit]
  rfl

theorem timestamp_moved_iff {now : Moment} {seconds : Int} (hnow : IsUniversal now)
    (hmoved : IsUniversal (moved now seconds)) :
    (moved now seconds).timestamp = now.timestamp + seconds ↔
      (IsToldAsNext now.sinceEpoch ↔ IsToldAsNext (now.sinceEpoch + seconds * 1000000)) := by
  rw [timestamp_of_isUniversal hnow, timestamp_of_isUniversal hmoved, sinceEpoch_moved,
    Int.add_mul_ediv_right _ _ (by decide)]
  refine Iff.trans ?_ one_or_zero_eq_iff
  omega

/-- An offset that stays within the calendar moves the seconds that are told by exactly its length, if
and only if both moments are told as the second they lie in or both as the second after it. -/
theorem timestamp_shifted_iff (hnow : IsUniversal s.now)
    (hamount : Numeral.parse amount.toList = .ok (some n)) (hunit : TimeUnit.ofText? unit = some u)
    (hin : inCalendar (moved s.now (n * u.seconds)).wall = true) (state : State) :
    Numeral.parse (toString n).toList = .ok (some n) ∧
    ∃ told toldShifted : Int,
      ((call s "timestamp" []).run.run state).1 = .ok (toString told) ∧
      ((call s "timestamp" [amount, unit]).run.run state).1 = .ok (toString toldShifted) ∧
      (toldShifted = told + n * u.seconds ↔
        (IsToldAsNext s.now.sinceEpoch ↔ IsToldAsNext (s.now.sinceEpoch + n * u.seconds * 1000000))) :=
  ⟨parse_of_inCalendar hnow.2 hin, s.now.timestamp, (moved s.now (n * u.seconds)).timestamp,
    call_timestamp s state, call_timestamp_of_offset hnow.2 hamount hunit hin state,
    timestamp_moved_iff hnow ⟨hnow.1, hin⟩⟩

def beforeEpoch : Surroundings := { now := ⟨62135596799500000, 0⟩ }

theorem isUniversal_beforeEpoch : IsUniversal beforeEpoch.now := ⟨rfl, by decide⟩

theorem sinceEpoch_beforeEpoch : beforeEpoch.now.sinceEpoch = -500000 := by decide

/-- Before 1970 both moments are cut toward it. -/
theorem timestamp_shifted_beforeEpoch : IsUniversal beforeEpoch.now ∧
    Numeral.parse "-01".toList = .ok (some (-1)) ∧ TimeUnit.ofText? "h" = some .hour ∧
    inCalendar (moved beforeEpoch.now (-1 * TimeUnit.hour.seconds)).wall = true ∧
    ∃ told toldShifted : Int,
      ((call beforeEpoch "timestamp" []).run.run {}).1 = .ok (toString told) ∧
      ((call beforeEpoch "timestamp" ["-01", "h"]).run.run {}).1 = .ok (toString toldShifted) ∧
      toldShifted = told + -1 * TimeUnit.hour.seconds := by
  have hnow := isUniversal_beforeEpoch
  have hamount : Numeral.parse "-01".toList = .ok (some (-1)) := rfl
  have hunit : TimeUnit.ofText? "h" = some .hour := rfl
  have hin : inCalendar (moved beforeEpoch.now (-1 * TimeUnit.hour.seconds)).wall = true := by decide
  obtain ⟨-, told, toldShifted, htold, hshifted, hiff⟩ :=
    timestamp_shifted_iff hnow hamount hunit hin {}
  refine ⟨hnow, hamount, hunit, hin, told, toldShifted, htold, hshifted, hiff.2 ?_⟩
  rw [sinceEpoch_beforeEpoch, isToldAsNext_iff (by decide), isToldAsNext_iff (by decide)]
  decide

/-- The half second before 1970 and the one after it are told as the same second. -/
theorem not_forall_timestamp_shifted : ¬∀ (s : Surroundings) (state : State) (amount unit : String)
    (n : Int) (u : TimeUnit), IsUniversal s.now → Numeral.parse amount.toList = .ok (some n) →
    TimeUnit.ofText? unit = some u → inCalendar (moved s.now (n * u.seconds)).wall = true →
    ∀ told toldShifted : Int, ((call s "timestamp" []).run.run state).1 = .ok (toString told) →
      ((call s "timestamp" [amount, unit]).run.run state).1 = .ok (toString toldShifted) →
      toldShifted = told + n * u.seconds := by
  intro h
  have hnow := isUniversal_beforeEpoch
  have hin : inCalendar (moved beforeEpoch.now (1 * TimeUnit.second.seconds)).wall = true := by decide
  have hsame := h beforeEpoch {} "1" "s" 1 .second hnow rfl rfl hin _ _ (call_timestamp beforeEpoch {})
    (call_timestamp_of_offset hnow.2 rfl rfl hin {})
  rw [timestamp_moved_iff hnow ⟨hnow.1, hin⟩, sinceEpoch_beforeEpoch, isToldAsNext_iff (by decide),
    isToldAsNext_iff (by decide)] at hsame
  revert hsame
  decide

end Call

end TemplatedRequests.Builtins

import TemplatedRequests.Clock.Moment
import TemplatedRequests.Proofs.Binary64.Quotient

/-!
Which second a moment is told as. It is the second that the moment lies in, or the one after it:
before 1970 seconds are cut toward 1970, and far from 1970 the last microseconds of a second are
rounded to the next one.
-/

namespace TemplatedRequests.Clock

def Moment.sinceEpoch (m : Moment) : Int := m.universal - Moment.epoch

/-- Half the gap between neighbouring floating point numbers of seconds, in microseconds. -/
def halfGap (micros : Int) : Int := Binary64.halfGap (micros.natAbs / 1000000) 1000000

/-- Whether a number of microseconds is told as the second after the one they lie in. -/
def IsToldAsNext (micros : Int) : Prop :=
  if micros < 0 then halfGap micros < micros % 1000000
  else 1000000 ≤ micros % 1000000 + halfGap micros

instance (micros : Int) : Decidable (IsToldAsNext micros) :=
  inferInstanceAs (Decidable (if micros < 0 then _ else _))

section

variable {m : Moment} {micros : Int}

theorem halfGap_lt (h : micros.natAbs < 2 ^ 51 * 1000000) : halfGap micros < 1000000 := by
  have hseconds : micros.natAbs / 1000000 < 2 ^ 53 := by omega
  have := Binary64.halfGap_lt hseconds (by decide : 0 < 1000000)
  unfold halfGap
  omega

theorem timestamp_eq (h : m.sinceEpoch.natAbs < 2 ^ 51 * 1000000) : m.timestamp =
    m.sinceEpoch / 1000000 + if IsToldAsNext m.sinceEpoch then 1 else 0 := by
  have hgap := halfGap_lt h
  have hlog : m.sinceEpoch.natAbs.log2 < 71 := Binary64.log2_lt_of_lt (by omega) (by decide)
  have htruncate := Binary64.truncate?_ofQuotient (decide (m.sinceEpoch < 0))
    (by decide : 1000000 ≠ 0) (by decide) hlog
  rw [Moment.timestamp]
  change (Binary64.truncate? (.ofQuotient (decide (m.sinceEpoch < 0)) m.sinceEpoch.natAbs
    1000000)).getD 0 = _
  rw [htruncate]
  unfold IsToldAsNext
  unfold halfGap at hgap ⊢
  simp only [Option.getD_some, decide_eq_true_eq]
  split
  · split <;> split <;> omega
  · split <;> split <;> omega

/-- In the centuries around 1970 only the cut toward it shows. -/
theorem isToldAsNext_iff (h : micros.natAbs < 2 ^ 34 * 1000000) :
    IsToldAsNext micros ↔ micros < 0 ∧ micros % 1000000 ≠ 0 := by
  have hseconds : micros.natAbs / 1000000 < 2 ^ 34 := by omega
  have hgap : halfGap micros = 0 :=
    congrArg Nat.cast (Binary64.halfGap_eq_zero hseconds (by decide) (by decide))
  unfold IsToldAsNext
  rw [hgap]
  split <;> omega

end

end TemplatedRequests.Clock

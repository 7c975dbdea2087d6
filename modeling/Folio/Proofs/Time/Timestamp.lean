import Folio.Time.Moment

namespace Folio.Time

namespace Timestamp

variable {rules : ZoneRules} {start stop : Timestamp}

/-- If the two times share a clock, then it is as far ahead of UTC at the one as at the other. -/
def Steady (rules : ZoneRules) (start stop : Timestamp) : Prop :=
  start.clock = stop.clock → start.offset? rules = stop.offset? rules

theorem steady_fixed {ahead : Int} (h : start.clock = some (.fixed ahead)) :
    Steady rules start stop := by
  intro hclock
  rw [offset?, offset?, ← hclock, h]
  rfl

theorem steady_unknown (h : start.clock = none) : Steady rules start stop := by
  intro hclock
  rw [offset?, offset?, ← hclock, h]
  rfl

theorem isAware_iff_offset : start.isAware = true ↔ (start.offset? rules).isSome = true := by
  rw [isAware, offset?, Option.isSome_map]

theorem elapsed_of_clock (h : start.clock = stop.clock) :
    start.elapsed rules stop = .ok (stop.reading - start.reading) :=
  if_pos h

theorem elapsed_of_clocks (h : start.clock ≠ stop.clock) (hstart : start.isAware = true)
    (hstop : stop.isAware = true) :
    start.elapsed rules stop = .ok (stop.instant rules - start.instant rules) := by
  rw [elapsed, if_neg h, hstart, hstop]
  rfl

/-- What lies between two times is what lies between their instants just if no clock that they
share was put forward or back. -/
theorem elapsed_eq_iff (hstart : start.isAware = true) (hstop : stop.isAware = true) :
    start.elapsed rules stop = .ok (stop.instant rules - start.instant rules) ↔
      Steady rules start stop := by
  by_cases hclock : start.clock = stop.clock
  · -- Readings lie as far apart as instants if their offsets are one.
    obtain ⟨before, hbefore⟩ := Option.isSome_iff_exists.1 (isAware_iff_offset.1 hstart)
    obtain ⟨after, hafter⟩ := Option.isSome_iff_exists.1 (isAware_iff_offset.1 hstop)
    rw [elapsed_of_clock hclock, Steady, imp_iff_right hclock, instant, instant, hbefore, hafter,
      Except.ok.injEq, Option.some.injEq, Option.getD_some, Option.getD_some]
    omega
  · rw [elapsed_of_clocks hclock hstart hstop]
    exact iff_of_true rfl fun h => absurd h hclock

end Timestamp

namespace Moment

variable (rules : ZoneRules)

@[simp] theorem isAware_stamp (t : Moment) : t.stamp.isAware = t.isAware :=
  Option.isSome_map

@[simp] theorem instant_stamp (t : Moment) : t.stamp.instant rules = t.instant := by
  rw [Timestamp.instant, Timestamp.offset?, instant]
  cases h : t.offset <;> simp [stamp, h]

theorem steady_stamp (start stop : Moment) : start.stamp.Steady rules stop.stamp := by
  cases h : start.offset with
  | some minutes => exact Timestamp.steady_fixed (congrArg (Option.map _) h)
  | none => exact Timestamp.steady_unknown (congrArg (Option.map _) h)

end Moment

end Folio.Time

import Mathlib
import Folio.Proofs.Number.Nearest
import Folio.Proofs.Time.Timestamp
import Folio.Time.Duration

namespace Folio.Time

open Folio.Number

section Months

variable {rounded : Rat → Rat} {micros : Int}

theorem wholeMonths_nonneg (rounded : Rat → Rat) (micros : Int) : 0 ≤ wholeMonths rounded micros :=
  le_max_left _ _

theorem wholeMonths_mono (h : Monotone rounded) : Monotone (wholeMonths rounded) := by
  intro micros micros' hle
  have hseconds : mkRat micros 1000000 ≤ mkRat micros' 1000000 := by
    rw [Rat.mkRat_eq_div, Rat.mkRat_eq_div]
    exact div_le_div_of_nonneg_right (Int.cast_le.2 hle) (by norm_num)
  have hmonths := h (div_le_div_of_nonneg_right (h hseconds) (c := monthSeconds) (by decide))
  exact max_le_max_left 0 (Rat.floor_monotone hmonths)

theorem wholeMonths_of_nonpos (hmono : Monotone rounded) (hzero : rounded 0 = 0) (h : micros ≤ 0) :
    wholeMonths rounded micros = 0 := by
  have hnone : wholeMonths rounded 0 = 0 := by
    rw [wholeMonths, Rat.zero_mkRat, hzero, zero_div, hzero]
    rfl
  exact le_antisymm (hnone ▸ wholeMonths_mono hmono h) (wholeMonths_nonneg rounded micros)

def monthMicros : Int := 2630016000000

theorem wholeMonths_exact (micros : Int) :
    wholeMonths id micros = max 0 (micros / monthMicros) := by
  have hquotient :
      mkRat micros 1000000 / monthSeconds = (micros : Rat) / (2630016000000 : Nat) := by
    rw [Rat.mkRat_eq_div, monthSeconds, div_div]
    norm_num
  have hfloor := Rat.floor_intCast_div_natCast micros 2630016000000
  rw [wholeMonths, id, id, hquotient]
  exact congrArg (max 0) hfloor

theorem wholeMonths_whole {k : Nat} (hk : k * 2630016 < 2 ^ 53) :
    wholeMonths nearestDouble (k * monthMicros) = k := by
  have hseconds : mkRat (k * monthMicros) 1000000 = (k * 2630016 : Nat) := by
    rw [Rat.mkRat_eq_div, monthMicros]
    push_cast
    ring
  have hmonths : ((k * 2630016 : Nat) : Rat) / monthSeconds = k := by
    rw [monthSeconds, Nat.cast_mul]
    exact mul_div_cancel_right₀ _ (by norm_num)
  rw [wholeMonths, hseconds, nearestDouble_natCast hk, hmonths, nearestDouble_natCast (by omega),
    ← Int.cast_natCast, Rat.floor_intCast]
  exact max_eq_right (Int.natCast_nonneg k)

theorem wholeMonths_short {k : Nat} (hk : (k + 1) * 2 ^ 22 < 2 ^ 53) :
    wholeMonths nearestDouble (((k + 1) * 2630016 - 1) * 1000000) ≤ k := by
  have hseconds : mkRat (((k + 1) * 2630016 - 1) * 1000000) 1000000 =
      ((k + 1) * 2630016 - 1 : Nat) := by
    rw [Rat.mkRat_eq_div, Nat.cast_pred (by positivity)]
    push_cast
    ring
  have hbelow : (((k + 1) * 2 ^ 22 - 1 : Nat) * 2 ^ (-22 : Int) : Rat) = k + 1 - 1 / 2 ^ 22 := by
    rw [Nat.cast_pred (by positivity)]
    push_cast
    norm_num
    ring
  have hmonths : (((k + 1) * 2630016 - 1 : Nat) : Rat) / monthSeconds ≤
      ((k + 1) * 2 ^ 22 - 1 : Nat) * 2 ^ (-22 : Int) := by
    rw [hbelow, monthSeconds, Nat.cast_pred (by positivity)]
    push_cast
    linarith
  have hshown := nearestDouble_mono hmonths
  rw [nearestDouble_self (by omega), hbelow] at hshown
  rw [wholeMonths, hseconds, nearestDouble_natCast (by omega)]
  refine max_le (Int.natCast_nonneg k) (Int.lt_add_one_iff.1 (Rat.floor_lt_iff.2 ?_))
  push_cast
  linarith

theorem wholeMonths_rounded (hbound : micros ≤ 10 ^ 18) :
    wholeMonths id micros ≤ wholeMonths nearestDouble micros ∧
      wholeMonths nearestDouble micros ≤ wholeMonths id micros + 1 ∧
      (1000000 ∣ micros → wholeMonths nearestDouble micros = wholeMonths id micros) := by
  obtain hnone | hpos := le_or_gt micros 0
  · rw [wholeMonths_of_nonpos nearestDouble_mono nearestDouble_zero hnone,
      wholeMonths_of_nonpos monotone_id rfl hnone]
    simp
  obtain ⟨k, hk⟩ := Int.eq_ofNat_of_zero_le (Int.ediv_nonneg hpos.le (by decide : 0 ≤ monthMicros))
  have hexact : wholeMonths id micros = k := by
    rw [wholeMonths_exact, hk]
    exact max_eq_right (Int.natCast_nonneg k)
  have hlow : k * monthMicros ≤ micros := by
    rw [monthMicros] at hk ⊢
    omega
  have hhigh : micros < (k + 1) * monthMicros := by
    rw [monthMicros] at hk ⊢
    omega
  have hfew : k < 1000000 := by
    rw [monthMicros] at hlow
    omega
  rw [hexact]
  have hbelow := wholeMonths_mono nearestDouble_mono hlow
  have habove := wholeMonths_mono nearestDouble_mono hhigh.le
  rw [wholeMonths_whole (by omega)] at hbelow
  rw [← Nat.cast_succ, wholeMonths_whole (by omega)] at habove
  refine ⟨hbelow, by simpa using habove, ?_⟩
  -- A span of whole seconds that is short of a month is short of it by a second.
  rintro ⟨seconds, hseconds⟩
  have hshort : micros ≤ ((k + 1) * 2630016 - 1) * 1000000 := by
    rw [monthMicros] at hhigh
    omega
  exact le_antisymm ((wholeMonths_mono nearestDouble_mono hshort).trans
    (wholeMonths_short (by omega))) hbelow

end Months

section Instants

theorem daysInMonth_le (year month : Nat) : daysInMonth year month ≤ 31 := by
  unfold daysInMonth
  split
  · split <;> decide
  all_goals decide

theorem daysBeforeMonth_le (year month : Nat) : Date.daysBeforeMonth year month ≤ 31 * month := by
  fun_induction Date.daysBeforeMonth year month with
  | case1 => decide
  | case2 => decide
  | case3 month _ ih =>
    have := daysInMonth_le year month
    omega

theorem Date.dayNumber_lt (d : Date) : d.dayNumber < 4000000 := by
  obtain ⟨year, month, day, valid⟩ := d
  simp only [isDate, Bool.and_eq_true, decide_eq_true_eq] at valid
  have hdays := daysInMonth_le year month
  have hmonths := daysBeforeMonth_le year month
  rw [dayNumber, daysBeforeYear]
  dsimp only
  omega

theorem Moment.instant_bounds (t : Moment) : -10 ^ 17 < t.instant ∧ t.instant < 4 * 10 ^ 17 := by
  obtain ⟨date, hour, minute, second, micro, offset, valid⟩ := t
  have hday := date.dayNumber_lt
  simp only [isTime, Bool.and_eq_true, decide_eq_true_eq] at valid
  have hoffset : -1440 < offset.getD 0 ∧ offset.getD 0 < 1440 := by
    cases offset with
    | none => decide
    | some minutes => simpa [isOffset] using valid.2
  simp only [instant, reading]
  omega

theorem monthsBetween_aware {start stop : Moment} (hstart : start.isAware = true)
    (hstop : stop.isAware = true) :
    monthsBetween start stop = .ok (wholeMonths nearestDouble (stop.instant - start.instant)) := by
  have helapsed := (Timestamp.elapsed_eq_iff (start.isAware_stamp.trans hstart)
    (stop.isAware_stamp.trans hstop)).2 (start.steady_stamp noZones stop)
  rw [monthsBetween, monthsBy, helapsed, Moment.instant_stamp, Moment.instant_stamp]
  rfl

def monthsFrom (start stop : Int) : Int :=
  max 0 ((stop - start) / monthMicros)

def shownFrom (start stop : Int) : Int :=
  wholeMonths nearestDouble (stop - start)

/-- Months from one instant to another: none backwards, no fewer to a later end, and no more from a
later start. -/
structure Forward (months : Int → Int → Int) : Prop where
  none_back : ∀ start stop, stop ≤ start → months start stop = 0
  mono : ∀ start, Monotone (months start)
  anti : ∀ stop, Antitone fun start => months start stop

theorem forward_wholeMonths {rounded : Rat → Rat} (hmono : Monotone rounded)
    (hzero : rounded 0 = 0) : Forward fun start stop => wholeMonths rounded (stop - start) where
  none_back start stop h := wholeMonths_of_nonpos hmono hzero (by omega)
  mono start _ _ h := wholeMonths_mono hmono (by omega)
  anti stop _ _ h := wholeMonths_mono hmono (by omega)

theorem forward_monthsFrom : Forward monthsFrom := by
  have hexact : monthsFrom = fun start stop => wholeMonths id (stop - start) := by
    funext start stop
    exact (wholeMonths_exact _).symm
  exact hexact ▸ forward_wholeMonths monotone_id rfl

theorem monthsFrom_split {a b c : Int} (hab : a ≤ b) (hbc : b ≤ c) :
    monthsFrom a b + monthsFrom b c ≤ monthsFrom a c ∧
      monthsFrom a c ≤ monthsFrom a b + monthsFrom b c + 1 := by
  simp only [monthsFrom, monthMicros]
  omega

theorem monthsBy_of_elapsed {rules : ZoneRules} {start stop : Timestamp} {a b : Int}
    (h : start.elapsed rules stop = .ok (b - a)) :
    monthsBy id rules start stop = .ok (monthsFrom a b) := by
  rw [monthsBy, h, monthsFrom, ← wholeMonths_exact]
  rfl

/-- Counted from exact quotients, months depend on the two instants alone unless both times are on
one clock that is put forward or back, where they depend on the readings. They go forward, and those
of two spans that meet are those of the whole or one fewer. With rounded quotients, which are shown,
there are as many or one more, and as many between moments that are whole seconds apart. -/
theorem monthsBy_instants (rules : ZoneRules) :
    (∀ start stop : Timestamp, start.isAware = true → stop.isAware = true →
      start.Steady rules stop →
      monthsBy id rules start stop = .ok (monthsFrom (start.instant rules) (stop.instant rules))) ∧
    (∀ start stop : Timestamp, start.clock = stop.clock →
      monthsBy id rules start stop = .ok (monthsFrom start.reading stop.reading)) ∧
    Forward monthsFrom ∧
    (∀ a b c, a ≤ b → b ≤ c →
      monthsFrom a b + monthsFrom b c ≤ monthsFrom a c ∧
        monthsFrom a c ≤ monthsFrom a b + monthsFrom b c + 1) ∧
    Forward shownFrom ∧
    ∀ start stop : Moment, start.isAware = true → stop.isAware = true →
      monthsBy id rules start.stamp stop.stamp = .ok (monthsFrom start.instant stop.instant) ∧
      monthsBetween start stop = .ok (shownFrom start.instant stop.instant) ∧
      monthsFrom start.instant stop.instant ≤ shownFrom start.instant stop.instant ∧
      shownFrom start.instant stop.instant ≤ monthsFrom start.instant stop.instant + 1 ∧
      (1000000 ∣ stop.instant - start.instant →
        shownFrom start.instant stop.instant = monthsFrom start.instant stop.instant) := by
  have hsteady : ∀ start stop : Timestamp, start.isAware = true → stop.isAware = true →
      start.Steady rules stop → monthsBy id rules start stop =
        .ok (monthsFrom (start.instant rules) (stop.instant rules)) :=
    fun start stop hstart hstop h =>
      monthsBy_of_elapsed ((Timestamp.elapsed_eq_iff hstart hstop).2 h)
  refine ⟨hsteady, fun start stop h => monthsBy_of_elapsed (Timestamp.elapsed_of_clock h),
    forward_monthsFrom, fun a b c => monthsFrom_split,
    forward_wholeMonths nearestDouble_mono nearestDouble_zero, ?_⟩
  intro start stop hstart hstop
  have hexact := hsteady start.stamp stop.stamp (start.isAware_stamp.trans hstart)
    (stop.isAware_stamp.trans hstop) (start.steady_stamp rules stop)
  rw [Moment.instant_stamp, Moment.instant_stamp] at hexact
  obtain ⟨hlow, -⟩ := start.instant_bounds
  obtain ⟨-, hhigh⟩ := stop.instant_bounds
  have hbound : stop.instant - start.instant ≤ 10 ^ 18 := by omega
  have hshown := wholeMonths_rounded hbound
  rw [wholeMonths_exact] at hshown
  exact ⟨hexact, monthsBetween_aware hstart hstop, hshown⟩

section OneZone

def hoursInto2020 (hours : Int) : Int :=
  ((Date.daysBeforeYear 2020 : Int) * 24 + hours) * 3600000000

/-- Central Europe in 2020: two hours ahead of UTC from the 29th of March to the 25th of October,
one hour ahead before and after. -/
def centralEurope : ZoneRules := fun _ reading again =>
  let change : Int := if again then 2 else 3
  if hoursInto2020 (88 * 24 + change) ≤ reading ∧ reading < hoursInto2020 (298 * 24 + change) then
    7200000000
  else 3600000000

def inBerlin (reading : Int) : Timestamp where
  reading := reading
  clock := some (.zone "Europe/Berlin")

def ahead (hours reading : Int) : Timestamp where
  reading := reading
  clock := some (.fixed (hours * 3600000000))

def newYear : Int := hoursInto2020 0

def inApril : Int := newYear + 3 * monthMicros

def yearOne : Moment :=
  ⟨.first, 0, 0, 0, 0, some 0, rfl⟩

def beforeMidnight : Moment :=
  ⟨⟨1001, 2, 7, rfl⟩, 23, 59, 59, 999999, some 0, rfl⟩

theorem monthsBy_instants_berlin :
    monthsBy id centralEurope (inBerlin newYear) (ahead 2 inApril) = .ok 2 ∧
      monthsBy id centralEurope (ahead 1 newYear) (inBerlin inApril) = .ok 2 ∧
      monthsBy id centralEurope (inBerlin newYear) (inBerlin inApril) = .ok 3 ∧
      monthsBetween yearOne beforeMidnight =
        .ok (shownFrom yearOne.instant beforeMidnight.instant) := by
  obtain ⟨hsteady, hclock, -, -, -, hmoments⟩ := monthsBy_instants centralEurope
  exact ⟨hsteady _ _ rfl rfl nofun, hsteady _ _ rfl rfl nofun, hclock _ _ rfl,
    (hmoments yearOne beforeMidnight rfl rfl).2.1⟩

/-- A quarter of 2020 on the clock of Berlin, which is put forward in it, counts as three months.
Between the same instants in UTC there are two. And where the quotients are rounded, as they are
when months are shown, a microsecond less than 12000 months is 12000 months. -/
theorem monthsBy_one_zone :
    (inBerlin newYear).instant centralEurope =
        (ahead 0 (hoursInto2020 (-1))).instant centralEurope ∧
      (inBerlin inApril).instant centralEurope =
        (ahead 0 (inApril - 7200000000)).instant centralEurope ∧
      monthsBy id centralEurope (inBerlin newYear) (inBerlin inApril) = .ok 3 ∧
      monthsBy id centralEurope (ahead 0 (hoursInto2020 (-1))) (ahead 0 (inApril - 7200000000)) =
        .ok 2 ∧
      monthsBy id centralEurope yearOne.stamp beforeMidnight.stamp = .ok 11999 ∧
      monthsBetween yearOne beforeMidnight = .ok 12000 := by
  decide +kernel

end OneZone

end Instants

theorem totalMonths_eq_sum (spans : List Int) : totalMonths spans = spans.sum := rfl

end Folio.Time

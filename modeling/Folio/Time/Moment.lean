import Folio.Time.Date
import Folio.Time.Timestamp
/-!
Moments: a date and a time of day, with the offset from UTC they are written in or with none.
Moments with an offset are ordered by the instant they name, moments without one by their clock
reading, and the two kinds do not compare.
-/

namespace Folio.Time

def isTime (hour minute second micro : Nat) : Bool :=
  hour < 24 && minute < 60 && second < 60 && micro < 1000000

def isOffset : Option Int → Bool
  | none => true
  | some minutes => -1440 < minutes && minutes < 1440

structure Moment where
  date : Date
  hour : Nat
  minute : Nat
  second : Nat
  micro : Nat
  offset : Option Int
  valid : (isTime hour minute second micro && isOffset offset) = true
  deriving DecidableEq, Repr

namespace Moment

def of? (date : Date) (hour minute second micro : Nat) (offset : Option Int) : Option Moment :=
  if h : isTime hour minute second micro && isOffset offset then
    some ⟨date, hour, minute, second, micro, offset, h⟩
  else none

def midnight (date : Date) : Moment :=
  ⟨date, 0, 0, 0, 0, none, rfl⟩

def isAware (t : Moment) : Bool :=
  t.offset.isSome

def orUtc (t : Moment) : Moment :=
  match h : t.offset with
  | some _ => t
  | none => { t with
      offset := some 0
      valid := by have := t.valid; rw [h] at this; simpa [isOffset] using this }

def reading (t : Moment) : Int :=
  let days : Int := t.date.dayNumber
  let seconds : Int := days * 86400 + t.hour * 3600 + t.minute * 60 + t.second
  seconds * 1000000 + t.micro

def instant (t : Moment) : Int :=
  t.reading - t.offset.getD 0 * 60000000

def ofEpoch? (micros : Int) : Option Moment :=
  let days := micros / 86400000000
  let rest := (micros % 86400000000).toNat
  let seconds := rest / 1000000
  (Date.ofDayNumber? (days + Date.epoch)).bind fun date =>
    of? date (seconds / 3600) (seconds / 60 % 60) (seconds % 60) (rest % 1000000) (some 0)

def stamp (t : Moment) : Timestamp where
  reading := t.reading
  clock := t.offset.map fun minutes => .fixed (minutes * 60000000)

/-- Latest first; items with equal keys keep their order. -/
def latestFirst (items : List (α × Moment)) : Except ZoneClash (List (α × Moment)) :=
  if items.all (·.2.isAware) || items.all (!·.2.isAware) then
    .ok (items.mergeSort fun a b => b.2.instant ≤ a.2.instant)
  else .error .comparing

def monthYear (names : List String) (t : Moment) : String :=
  names.getD (t.date.month - 1) "" ++ s!" {t.date.year}"

def shortMonthYear (t : Moment) : String :=
  t.monthYear monthAbbreviations

def longMonthYear (t : Moment) : String :=
  t.monthYear monthNames

end Moment

end Folio.Time

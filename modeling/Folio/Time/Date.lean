namespace Folio.Time

def isLeap (year : Nat) : Bool :=
  year % 4 == 0 && (year % 100 != 0 || year % 400 == 0)

def daysInMonth (year : Nat) : Nat → Nat
  | 2 => if isLeap year then 29 else 28
  | 4 | 6 | 9 | 11 => 30
  | _ => 31

def isDate (year month day : Nat) : Bool :=
  1 ≤ year && year ≤ 9999 && 1 ≤ month && month ≤ 12 && 1 ≤ day && day ≤ daysInMonth year month

structure Date where
  year : Nat
  month : Nat
  day : Nat
  valid : isDate year month day = true
  deriving DecidableEq, Repr

namespace Date

def first : Date := ⟨1, 1, 1, rfl⟩

def of? (year month day : Nat) : Option Date :=
  if h : isDate year month day then some ⟨year, month, day, h⟩ else none

def daysBeforeYear (year : Nat) : Nat :=
  let y := year - 1
  y * 365 + y / 4 - y / 100 + y / 400

def daysBeforeMonth (year : Nat) : Nat → Nat
  | 0 => 0
  | 1 => 0
  | m + 1 => daysBeforeMonth year m + daysInMonth year m

def dayNumber (d : Date) : Nat :=
  daysBeforeYear d.year + daysBeforeMonth d.year d.month + (d.day - 1)

def epoch : Nat := daysBeforeYear 1970

def monthAndDay (year : Nat) : Nat → Nat → Nat → Nat × Nat
  | 0, month, rest => (month, rest + 1)
  | fuel + 1, month, rest =>
    let n := daysInMonth year month
    if rest < n then (month, rest + 1) else monthAndDay year fuel (month + 1) (rest - n)

def ofDayNumber? (n : Int) : Option Date :=
  if n < 0 then none
  else
    let n := n.toNat
    let guess := n / 366 + 1
    let year := ((List.range 30).map (guess + ·)).foldl
      (fun best y => if daysBeforeYear y ≤ n then y else best) guess
    let (month, day) := monthAndDay year 12 1 (n - daysBeforeYear year)
    of? year month day

end Date

def monthNames : List String :=
  ["January", "February", "March", "April", "May", "June", "July", "August", "September",
    "October", "November", "December"]

def monthAbbreviations : List String :=
  ["Jan", "Feb", "Mar", "Apr", "May", "Jun", "Jul", "Aug", "Sep", "Oct", "Nov", "Dec"]

end Folio.Time

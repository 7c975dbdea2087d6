import Folio.Number.Binary
import Folio.Number.Nearest
import Folio.Number.Numeral
import Folio.Time.Moment

namespace Folio.Time

open Folio.Number

def padded (width n : Nat) : List Char :=
  let ds := Nat.toDigits 10 n
  List.replicate (width - ds.length) '0' ++ ds

namespace Date

def iso (d : Date) : List Char :=
  padded 4 d.year ++ '-' :: padded 2 d.month ++ '-' :: padded 2 d.day

end Date

namespace Moment

def isoTime (t : Moment) : List Char :=
  padded 2 t.hour ++ ':' :: padded 2 t.minute ++ ':' :: padded 2 t.second ++
    if t.micro = 0 then [] else '.' :: padded 6 t.micro

def isoOffset (minutes : Int) : List Char :=
  let n := minutes.natAbs
  (if minutes < 0 then '-' else '+') :: padded 2 (n / 60) ++ ':' :: padded 2 (n % 60)

def toIso (t : Moment) : String :=
  let zone := match t.offset with
    | none => []
    | some 0 => ['Z']
    | some minutes => isoOffset minutes
  String.ofList (t.date.iso ++ 'T' :: t.isoTime ++ zone)

def toIsoDigits (t : Moment) : String :=
  String.ofList (t.date.iso ++ 'T' :: t.isoTime ++ (t.offset.map isoOffset).getD [])

end Moment

def twoDigits? : List Char → Option (Nat × List Char)
  | a :: b :: cs =>
    match digit? a, digit? b with
    | some x, some y => some (10 * x + y, cs)
    | _, _ => none
  | _ => none

def readDate? (cs : List Char) : Option (Date × List Char) := do
  let (century, cs) ← twoDigits? cs
  let (year, cs) ← twoDigits? cs
  let '-' :: cs := cs | none
  let (month, cs) ← twoDigits? cs
  let '-' :: cs := cs | none
  let (day, cs) ← twoDigits? cs
  let date ← Date.of? (100 * century + year) month day
  return (date, cs)

def readFraction? (cs : List Char) : Option (Nat × List Char) :=
  match cs with
  | c :: rest =>
    if c = '.' ∨ c = ',' then
      let ds := rest.takeWhile isDigit
      if ds.isEmpty then none
      else
        let six := (ds ++ List.replicate 6 '0').take 6
        some (natOf six, rest.dropWhile isDigit)
    else some (0, cs)
  | [] => some (0, [])

def readSeconds? : List Char → Option (Nat × Nat × List Char)
  | ':' :: cs => do
    let (second, cs) ← twoDigits? cs
    let (micro, cs) ← readFraction? cs
    return (second, micro, cs)
  | cs => some (0, 0, cs)

def readOffset? : List Char → Option (Option Int)
  | [] => some none
  | ['Z'] | ['z'] => some (some 0)
  | sign :: cs => do
    guard (['+', '-', '−'].contains sign)
    let (hours, cs) ← twoDigits? cs
    let cs := match cs with
      | ':' :: cs => cs
      | cs => cs
    let (minutes, cs) ← twoDigits? cs
    guard (cs.isEmpty && minutes < 60)
    let total : Int := hours * 60 + minutes
    return some (if sign = '+' then total else -total)

def readIso? (cs : List Char) : Option Moment := do
  let (date, cs) ← readDate? cs
  match cs with
  | [] => return Moment.midnight date
  | separator :: cs =>
    guard (['T', 't', ' ', '_'].contains separator)
    let (hour, cs) ← twoDigits? cs
    let ':' :: cs := cs | none
    let (minute, cs) ← twoDigits? cs
    let (second, micro, cs) ← readSeconds? cs
    let offset ← readOffset? cs
    Moment.of? date hour minute second micro offset

def millisecondsAbove : Nat := 20000000000

def ofUnix? (time micros : Int) : Option Moment :=
  let unit := if millisecondsAbove < time.natAbs then 1000 else 1000000
  Moment.ofEpoch? (time * unit + micros)

def microsOf (fraction : Rat) : Int :=
  roundHalfUp (nearestDouble (fraction * 1000000))

/-- Adds decimals to a sum, each of them in its turn: every step is rounded. -/
def addDecimals (sum scale : Rat) : List Char → Rat
  | [] => sum
  | c :: cs =>
    let decimal := nearestDouble ((digit? c).getD 0 / scale)
    addDecimals (nearestDouble (sum + decimal)) (nearestDouble (scale * 10)) cs

def ofWritten? (x : Rat) : Option Moment :=
  let isLarge : Bool := x < -millisecondsAbove || (millisecondsAbove : Rat) < x
  let seconds := if isLarge then nearestDouble (x / 1000) else x
  ofUnix? seconds.floor (microsOf (nearestDouble (seconds - seconds.floor)))

def readUnix? (cs : List Char) : Option Moment :=
  let (negative, body) := signed cs
  let whole := body.takeWhile isDigit
  if whole.isEmpty then none
  else match body.dropWhile isDigit with
    | [] => ofUnix? (if negative then -(natOf whole : Int) else natOf whole) 0
    | '.' :: decimals =>
      if decimals.all isDigit then
        let x := addDecimals (nearestDouble (natOf whole)) 10 decimals
        ofWritten? (if negative then -x else x)
      else none
    | _ => none

def Moment.ofText? (s : String) : Option Moment :=
  match readIso? s.toList with
  | some t => some t
  | none => readUnix? s.toList

def Moment.ofInt? (n : Int) : Option Moment :=
  ofUnix? n 0

/-- The fraction is added to the next lower integer without regard to the sign. -/
def Moment.ofFloat? (x : Float) : Option Moment :=
  (Dyadic.ofFloat? x).bind fun d =>
    let size := { d with negative := false }.fraction
    ofUnix? d.fraction.floor (microsOf (size - size.floor))

end Folio.Time

import Folio.Number.Nearest
import Folio.Time.Moment
/-!
Durations in whole months. A month is an average one, 30.44 days long. Both quotients that lead
from microseconds to months are rounded to doubles, so that a span which is short of a whole month
by a few microseconds in centuries counts as whole.
-/

namespace Folio.Time

open Folio.Number

def monthSeconds : Rat := 2630016

/-- Whole months in a span of microseconds, none when it is negative; each quotient is rounded. -/
def wholeMonths (rounded : Rat → Rat) (micros : Int) : Int :=
  max 0 (rounded (rounded (mkRat micros 1000000) / monthSeconds)).floor

def monthsBy (rounded : Rat → Rat) (rules : ZoneRules) (start stop : Timestamp) :
    Except ZoneClash Int :=
  (start.elapsed rules stop).map (wholeMonths rounded)

def monthsBetween (start stop : Moment) : Except ZoneClash Int :=
  monthsBy nearestDouble noZones start.stamp stop.stamp

def totalMonths (spans : List Int) : Int :=
  spans.foldr (· + ·) 0

def counted (n : Int) (unit : String) : String :=
  s!"{n} {unit}" ++ if n = 1 then "" else "s"

def monthsText (total : Int) : String :=
  let years := total / 12
  let months := total % 12
  if years = 0 then counted months "month"
  else if months = 0 then counted years "year"
  else counted years "year" ++ ", " ++ counted months "month"

def rangeText (start : Moment) (stop : Option Moment) : String :=
  s!"{start.shortMonthYear} - " ++ (stop.map Moment.shortMonthYear).getD "Present"

end Folio.Time

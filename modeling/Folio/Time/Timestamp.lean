namespace Folio.Time

/-- A clock that is a fixed number of microseconds ahead of UTC, or the clock of a time zone. -/
inductive Clock where
  | fixed (ahead : Int)
  | zone (name : String)
  deriving DecidableEq, Repr

/-- How many microseconds a zone's clock is ahead of UTC, by what it reads. Where a clock is put
back it reads the same twice, and the mark tells the second time from the first. -/
abbrev ZoneRules := String → Int → Bool → Int

def noZones : ZoneRules := fun _ _ _ => 0

inductive ZoneClash where
  | comparing
  | subtracting
  deriving DecidableEq, Repr

def ZoneClash.message : ZoneClash → String
  | .comparing => "can't compare offset-naive and offset-aware datetimes"
  | .subtracting => "can't subtract offset-naive and offset-aware datetimes"

structure Timestamp where
  reading : Int
  again : Bool := false
  clock : Option Clock
  deriving DecidableEq, Repr

namespace Timestamp

variable (rules : ZoneRules)

def offset? (t : Timestamp) : Option Int :=
  t.clock.map fun
    | .fixed ahead => ahead
    | .zone name => rules name t.reading t.again

def isAware (t : Timestamp) : Bool :=
  t.clock.isSome

def instant (t : Timestamp) : Int :=
  t.reading - (t.offset? rules).getD 0

/-- Two times on one clock are subtracted as they read, even where the clock was put forward or
back between them. Others are subtracted as instants. -/
def elapsed (start stop : Timestamp) : Except ZoneClash Int :=
  if start.clock = stop.clock then .ok (stop.reading - start.reading)
  else if start.isAware && stop.isAware then .ok (stop.instant rules - start.instant rules)
  else .error .subtracting

end Timestamp

end Folio.Time

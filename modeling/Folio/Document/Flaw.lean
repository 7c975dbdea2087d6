namespace Folio.Document

inductive DatePart where
  | year
  | month
  | day
  | hour
  | minute
  | second
  | offset (minutes : Int)
  deriving DecidableEq, Repr

def spanText (minutes : Int) : String :=
  let days := Int.fdiv minutes 1440
  let seconds := Int.fmod minutes 1440 * 60
  let shown := if seconds = 0 then s!"days={days}" else s!"days={days}, seconds={seconds}"
  s!"datetime.timedelta({shown})"

def DatePart.message : DatePart → String
  | year => "year 0 is out of range"
  | month => "month must be in 1..12"
  | day => "day is out of range for month"
  | hour => "hour must be in 0..23"
  | minute => "minute must be in 0..59"
  | second => "second must be in 0..59"
  | offset minutes =>
    "offset must be a timedelta strictly between -timedelta(hours=24) and timedelta(hours=24), " ++
      "not " ++ spanText minutes ++ "."

/-- Integers are read from at most this many decimal digits. -/
def mostDigits : Nat := 4300

inductive ScalarFlaw where
  | noSuchDate (part : DatePart)
  | noDigits (base : Nat)
  | tooManyDigits (count : Nat)
  | noSuchCharacter
  | codeTooLarge
  deriving DecidableEq, Repr

def ScalarFlaw.message : ScalarFlaw → String
  | noSuchDate part => part.message
  | noDigits base => s!"invalid literal for int() with base {base}: ''"
  | tooManyDigits count =>
    s!"Exceeds the limit ({mostDigits} digits) for integer string conversion: value has {count} " ++
      "digits; use sys.set_int_max_str_digits() to increase the limit"
  | noSuchCharacter => "chr() arg not in range(0x110000)"
  | codeTooLarge => "Python int too large to convert to C int"

/-- Lists and records in a text are nested at most this deep. -/
def deepest : Nat := 990

inductive Flaw where
  | malformed
  | scalar (flaw : ScalarFlaw)
  | tooDeep (isRecord : Bool)
  deriving DecidableEq, Repr

def Flaw.message : Flaw → String
  | malformed => "malformed"
  | scalar flaw => flaw.message
  | tooDeep isRecord =>
    let kind := if isRecord then "object" else "array"
    s!"maximum recursion depth exceeded while decoding a JSON {kind} from a unicode string"

def orMalformed : Option α → Except Flaw α
  | some a => .ok a
  | none => .error .malformed

end Folio.Document

import Folio.Text.Blank

namespace Folio.Number

open Folio.Text

/-- The finite decimal `± digits * 10 ^ exponent`. -/
structure Decimal where
  negative : Bool
  digits : Nat
  exponent : Int
  deriving DecidableEq, Repr

def digit? (c : Char) : Option Nat :=
  if '0' ≤ c ∧ c ≤ '9' then some (c.toNat - 48) else none

def isDigit (c : Char) : Bool :=
  (digit? c).isSome

def zeroDigits : List Nat := [
  48, 1632, 1776, 1984, 2406, 2534, 2662, 2790, 2918, 3046, 3174, 3302, 3430, 3558, 3664, 3792,
  3872, 4160, 4240, 6112, 6160, 6470, 6608, 6784, 6800, 6992, 7088, 7232, 7248, 42528, 43216,
  43264, 43472, 43504, 43600, 44016, 65296, 66720, 68912, 69734, 69872, 69942, 70096, 70384,
  70736, 70864, 71248, 71360, 71472, 71904, 72016, 72784, 73040, 73120, 92768, 92864, 93008,
  120782, 120792, 120802, 120812, 120822, 123200, 123632, 125264, 130032]

def asciiDigit (c : Char) : Char :=
  match zeroDigits.find? (fun z => z ≤ c.toNat && c.toNat < z + 10) with
  | some z => Char.ofNat (48 + (c.toNat - z))
  | none => c

def isDecimalDigit (c : Char) : Bool :=
  isDigit (asciiDigit c)

def natOf (cs : List Char) : Nat :=
  cs.foldl (fun n c => n * 10 + (digit? c).getD 0) 0

def signed : List Char → Bool × List Char
  | '-' :: cs => (true, cs)
  | '+' :: cs => (false, cs)
  | cs => (false, cs)

def allDigits (cs : List Char) : Bool :=
  !cs.isEmpty && cs.all isDigit

def exponent? : List Char → Option Int
  | [] => some 0
  | c :: cs =>
    if c = 'e' ∨ c = 'E' then
      let (negative, ds) := signed cs
      if allDigits ds then some (if negative then -(natOf ds : Int) else natOf ds) else none
    else none

def decimal? (cs : List Char) : Option Decimal :=
  let (negative, body) := signed cs
  let whole := body.takeWhile isDigit
  let (part, rest) :=
    match body.dropWhile isDigit with
    | '.' :: cs => (cs.takeWhile isDigit, cs.dropWhile isDigit)
    | cs => ([], cs)
  if whole.isEmpty && part.isEmpty then none
  else (exponent? rest).map fun e => ⟨negative, natOf (whole ++ part), e - part.length⟩

def Decimal.toFloat (d : Decimal) : Float :=
  let size : Int := (toString d.digits).length + d.exponent
  let magnitude : Float :=
    if d.digits = 0 ∨ size < -400 then 0
    else if 400 < size then 1.0 / 0.0
    else if 0 ≤ d.exponent then Float.ofScientific d.digits false d.exponent.toNat
    else Float.ofScientific d.digits true (-d.exponent).toNat
  if d.negative then -magnitude else magnitude

def Decimal.ofInt (n : Int) : Decimal :=
  ⟨n < 0, n.natAbs, 0⟩

def Decimal.toFiniteFloat? (d : Decimal) : Option Float :=
  if d.toFloat.isInf then none else some d.toFloat

def special? (cs : List Char) : Option Float :=
  let (negative, body) := signed cs
  let name := String.ofList (body.map Char.toLower)
  if name = "inf" ∨ name = "infinity" then some (if negative then -1.0 / 0.0 else 1.0 / 0.0)
  else if name = "nan" then some (0.0 / 0.0)
  else none

def float? (cs : List Char) : Option Float :=
  match decimal? cs with
  | some d => some d.toFloat
  | none => special? cs

def ungrouped? : List Char → Option (List Char)
  | [] => some []
  | '_' :: _ => none
  | [c] => some [c]
  | c :: '_' :: d :: cs =>
    if isDigit c && isDigit d then (ungrouped? (d :: cs)).map (c :: ·) else none
  | c :: cs => (ungrouped? cs).map (c :: ·)

/-- A number as an environment variable holds it: trimmed, with digits of any script, which may
be grouped. -/
def environmentFloat? (s : String) : Option Float :=
  (ungrouped? ((trim isWhite s.toList).map asciiDigit)).bind float?

def hasDoubleScore : List Char → Bool
  | '_' :: '_' :: _ => true
  | _ :: cs => hasDoubleScore cs
  | [] => false

def withoutScores (cs : List Char) : List Char :=
  if cs.head? = some '_' || cs.getLast? = some '_' || hasDoubleScore cs then cs
  else cs.filter (· != '_')

def documentFloat? (s : String) : Option Float :=
  match float? (trim isWhite s.toList) with
  | some x => some x
  | none => float? (withoutScores s.toList)

inductive Integral where
  | value (n : Int)
  | tooLong
  | malformed
  deriving DecidableEq, Repr

def longestInteger : Nat := 4300

def plainInt (cs : List Char) : Integral :=
  let body := match cs with
    | '-' :: ds => ds
    | ds => ds
  let whole := body.takeWhile isDigit
  let rest := body.dropWhile isDigit
  match whole with
  | [] => .malformed
  | ['0'] => if rest.isEmpty then .value 0 else .malformed
  | '0' :: _ => .malformed
  | whole =>
    if longestInteger < cs.length - rest.length then .tooLong
    else if !rest.isEmpty then .malformed
    else .value (if body.length < cs.length then -(natOf whole : Int) else natOf whole)

def withoutLeadingZeros? (cs : List Char) : Option (List Char) :=
  let isZero := fun c => c == '0' || c == '_'
  match cs with
  | '0' :: _ =>
    let zeros := cs.takeWhile isZero
    if hasDoubleScore zeros then none
    else match cs.dropWhile isZero with
      | [] => some (zeros.drop (zeros.length - 1))
      | c :: rest =>
        if isDigit c then some (c :: rest)
        else if c = '.' then some (zeros.drop (zeros.length - 1) ++ c :: rest)
        else none
  | c :: _ => if isDigit c || c == '-' then some cs else none
  | [] => none

def withoutZeroFraction (cs : List Char) : List Char :=
  match cs.dropWhile (· != '.') with
  | _ :: zeros =>
    if !zeros.isEmpty && zeros.all (· == '0') then cs.takeWhile (· != '.') else cs
  | [] => cs

def tidied? (cs : List Char) : Option (List Char) :=
  let unsigned? := match trim isWhite cs with
    | '+' :: '-' :: _ => none
    | '+' :: ds => some ds
    | ds => some ds
  ((unsigned?.bind withoutLeadingZeros?).map withoutZeroFraction).map withoutScores

/-- An integer as a text value of a document holds it: plain, or trimmed, with a sign, leading
zeros, grouped digits and a fraction of zeros. -/
def documentInt (s : String) : Integral :=
  match plainInt s.toList with
  | .malformed =>
    match (tidied? s.toList).map plainInt with
    | some (.value n) => .value n
    | _ => .malformed
  | found => found

end Folio.Number

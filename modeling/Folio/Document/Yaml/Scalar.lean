import Folio.Document.Flaw
import Folio.Document.Value
import Folio.Number.Numeral

namespace Folio.Document.Yaml

open Folio.Number Folio.Time

def nullWords : List String := ["~", "null", "Null", "NULL", ""]

def trueWords : List String :=
  ["yes", "Yes", "YES", "true", "True", "TRUE", "on", "On", "ON"]

def falseWords : List String :=
  ["no", "No", "NO", "false", "False", "FALSE", "off", "Off", "OFF"]

def infinityWords : List String := [".inf", ".Inf", ".INF"]

def nanWords : List String := [".nan", ".NaN", ".NAN"]

def isGrouped (p : Char → Bool) (cs : List Char) : Bool :=
  cs.all fun c => p c || c == '_'

def startsWithDigit : List Char → Bool
  | c :: _ => isDigit c
  | [] => false

def baseDigit? (c : Char) : Option Nat :=
  if '0' ≤ c ∧ c ≤ '9' then some (c.toNat - 48)
  else if 'a' ≤ c ∧ c ≤ 'f' then some (c.toNat - 87)
  else if 'A' ≤ c ∧ c ≤ 'F' then some (c.toNat - 55)
  else none

def inBase (base : Nat) (c : Char) : Bool :=
  (baseDigit? c).any (· < base)

def ofBase (base : Nat) (cs : List Char) : Nat :=
  (cs.filter (· != '_')).foldl (fun n c => n * base + (baseDigit? c).getD 0) 0

def parts (separator : Char) : List Char → List (List Char)
  | [] => [[]]
  | c :: cs =>
    match parts separator cs with
    | p :: ps => if c = separator then [] :: p :: ps else (c :: p) :: ps
    | [] => [[c]]

def isSixtieth (cs : List Char) : Bool :=
  match cs with
  | [a] => isDigit a
  | [a, b] => '0' ≤ a && a ≤ '5' && isDigit b
  | _ => false

def groupDigits? (cs : List Char) : Option (List Char) :=
  if startsWithDigit cs && isGrouped isDigit cs then some (cs.filter (· != '_')) else none

def sixtieths? (cs : List Char) : Option (List (List Char)) :=
  match parts ':' cs with
  | first :: more =>
    if !more.isEmpty && more.all isSixtieth then (groupDigits? first).map (· :: more) else none
  | [] => none

def decimalNat (ds : List Char) : Except ScalarFlaw Nat :=
  if mostDigits < ds.length then .error (.tooManyDigits ds.length) else .ok (natOf ds)

def basedNat (base : Nat) (cs : List Char) : Except ScalarFlaw Nat :=
  if cs.all (· == '_') then .error (.noDigits base) else .ok (ofBase base cs)

def sexagesimalNat (groups : List (List Char)) : Except ScalarFlaw Nat :=
  groups.foldlM (fun n ds => (decimalNat ds).map (n * 60 + ·)) 0

def unsignedInt? (cs : List Char) : Option (Except ScalarFlaw Nat) :=
  match cs with
  | ['0'] => some (.ok 0)
  | '0' :: 'b' :: ds =>
    if !ds.isEmpty && isGrouped (inBase 2) ds then some (basedNat 2 ds) else none
  | '0' :: 'x' :: ds =>
    if !ds.isEmpty && isGrouped (inBase 16) ds then some (basedNat 16 ds) else none
  | '0' :: ds => if isGrouped (inBase 8) ds then some (.ok (ofBase 8 ds)) else none
  | cs =>
    match groupDigits? cs with
    | some ds => some (decimalNat ds)
    | none => (sixtieths? cs).map sexagesimalNat

def int? (cs : List Char) : Option (Except ScalarFlaw Int) :=
  let (negative, ds) := signed cs
  (unsignedInt? ds).map fun n => n.map fun n => if negative then -(n : Int) else n

def isExponent : List Char → Bool
  | [] => true
  | e :: sign :: ds => (e == 'e' || e == 'E') && (sign == '-' || sign == '+') && allDigits ds
  | _ => false

def isPointed (negativeOrPlus : Bool) (cs : List Char) : Bool :=
  let whole := cs.takeWhile (· != '.')
  match cs.dropWhile (· != '.') with
  | _ :: rest =>
    let fraction := rest.takeWhile fun c => isDigit c || c == '_'
    isExponent (rest.dropWhile fun c => isDigit c || c == '_') &&
      if whole.isEmpty then !negativeOrPlus && startsWithDigit fraction
      else startsWithDigit whole && isGrouped isDigit whole
  | [] => false

def sexagesimalSum (groups : List Float) : Float :=
  (groups.foldl (fun (sum, unit) x => (sum + x * Float.ofNat unit, unit * 60))
    ((0.0, 1) : Float × Nat)).1

def sexagesimalFloat? (cs : List Char) : Option Float :=
  match sixtieths? (cs.takeWhile (· != '.')), cs.dropWhile (· != '.') with
  | some groups, _ :: fraction =>
    if isGrouped isDigit fraction then
      let ds := fraction.filter (· != '_')
      match groups.reverse with
      | last :: more =>
        let final := Decimal.mk false (natOf (last ++ ds)) (-(ds.length : Int))
        let others := more.map fun g => (Decimal.mk false (natOf g) 0).toFloat
        some (sexagesimalSum (final.toFloat :: others))
      | [] => none
    else none
  | _, _ => none

def float? (cs : List Char) : Option Float :=
  let hasSign := cs.head? = some '-' || cs.head? = some '+'
  let (negative, body) := signed cs
  let sign := fun (x : Float) => if negative then -x else x
  if isPointed hasSign body then (decimal? (body.filter (· != '_'))).map (sign ·.toFloat)
  else if infinityWords.contains (String.ofList body) then some (sign (1.0 / 0.0))
  else if nanWords.contains (String.ofList cs) then some (0.0 / 0.0)
  else (sexagesimalFloat? body).map sign

def oneOrTwo? (cs : List Char) : Option (Nat × List Char) :=
  match cs with
  | a :: b :: rest =>
    if isDigit a then if isDigit b then some (natOf [a, b], rest) else some (natOf [a], b :: rest)
    else none
  | [a] => if isDigit a then some (natOf [a], []) else none
  | [] => none

def two? (cs : List Char) : Option (Nat × List Char) :=
  match cs with
  | a :: b :: rest => if isDigit a && isDigit b then some (natOf [a, b], rest) else none
  | _ => none

def after? (c : Char) : List Char → Option (List Char)
  | d :: rest => if d = c then some rest else none
  | [] => none

structure Stamp where
  year : Nat
  month : Nat
  day : Nat
  time : Option (Nat × Nat × Nat × Nat × Option Int)

def offset? (cs : List Char) : Option (Option Int) :=
  match cs.dropWhile fun c => c == ' ' || c == '\t' with
  | [] => if cs.isEmpty then some none else none
  | ['Z'] => some (some 0)
  | sign :: rest => do
    guard (sign = '-' ∨ sign = '+')
    let (hours, rest) ← oneOrTwo? rest
    let minutes ← match rest with
      | [] => some 0
      | ':' :: rest => (two? rest).bind fun (m, rest) => if rest.isEmpty then some m else none
      | _ => none
    let total : Int := hours * 60 + minutes
    return some (if sign = '-' then -total else total)

def separator? (cs : List Char) : Option (List Char) :=
  match cs with
  | 'T' :: rest => some rest
  | 't' :: rest => some rest
  | _ =>
    let rest := cs.dropWhile fun c => c == ' ' || c == '\t'
    if rest.length < cs.length then some rest else none

def stampTime? (cs : List Char) : Option (Nat × Nat × Nat × Nat × Option Int) := do
  let (hour, cs) ← oneOrTwo? (← separator? cs)
  let (minute, cs) ← two? (← after? ':' cs)
  let (second, cs) ← two? (← after? ':' cs)
  let (fraction, cs) := match cs with
    | '.' :: rest => (rest.takeWhile isDigit, rest.dropWhile isDigit)
    | _ => ([], cs)
  let offset ← offset? cs
  return (hour, minute, second, natOf ((fraction ++ List.replicate 6 '0').take 6), offset)

def stamp? (cs : List Char) : Option Stamp := do
  let (century, rest) ← two? cs
  let (year, rest) ← two? rest
  let year := century * 100 + year
  let rest ← after? '-' rest
  let (month, afterMonth) ← oneOrTwo? rest
  let rest ← after? '-' afterMonth
  let (day, afterDay) ← oneOrTwo? rest
  if afterDay.isEmpty then
    guard (cs.length = 10)
    return ⟨year, month, day, none⟩
  else return ⟨year, month, day, some (← stampTime? afterDay)⟩

def Stamp.date (s : Stamp) : Except Flaw Date :=
  match Date.of? s.year s.month s.day with
  | some d => .ok d
  | none =>
    if s.year = 0 then .error (.scalar (.noSuchDate .year))
    else if s.month = 0 ∨ 12 < s.month then .error (.scalar (.noSuchDate .month))
    else .error (.scalar (.noSuchDate .day))

def Stamp.value (s : Stamp) : Except Flaw Value := do
  match s.time with
  | some (_, _, _, _, some minutes) =>
    if 1440 ≤ minutes.natAbs then .error (.scalar (.noSuchDate (.offset minutes)))
  | _ => pure ()
  let date ← s.date
  match s.time with
  | none => return .date date
  | some (hour, minute, second, micro, offset) =>
    match Moment.of? date hour minute second micro offset with
    | some t => return .moment t
    | none =>
      if 23 < hour then .error (.scalar (.noSuchDate .hour))
      else if 59 < minute then .error (.scalar (.noSuchDate .minute))
      else .error (.scalar (.noSuchDate .second))

def mergeMark : String := "<<"

def defaultMark : String := "="

def plainValue (s : String) : Except Flaw Value :=
  let cs := s.toList
  if nullWords.contains s then .ok .null
  else if trueWords.contains s then .ok (.bool true)
  else if falseWords.contains s then .ok (.bool false)
  else if s = mergeMark ∨ s = defaultMark then .error .malformed
  else match int? cs with
    | some (.ok n) => .ok (.int n)
    | some (.error flaw) => .error (.scalar flaw)
    | none =>
      match float? cs with
      | some x => .ok (.float x)
      | none =>
        match stamp? cs with
        | some stamp => stamp.value
        | none => .ok (.text s)

end Folio.Document.Yaml

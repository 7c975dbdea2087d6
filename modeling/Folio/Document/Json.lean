import Folio.Document.Flaw
import Folio.Document.Value
import Folio.Number.Numeral
import Folio.Text.Encoding

namespace Folio.Document.Json

open Folio.Number Folio.Text

def isSpace (c : Char) : Bool :=
  c == ' ' || c == '\t' || c == '\n' || c == '\r'

def skipSpace (cs : List Char) : List Char :=
  cs.dropWhile isSpace

def hexDigit? (c : Char) : Option Nat :=
  if '0' ≤ c ∧ c ≤ '9' then some (c.toNat - 48)
  else if 'a' ≤ c ∧ c ≤ 'f' then some (c.toNat - 87)
  else if 'A' ≤ c ∧ c ≤ 'F' then some (c.toNat - 55)
  else none

def hex? (cs : List Char) : Option Nat :=
  cs.foldl (fun n c => do return (← n) * 16 + (← hexDigit? c)) (some 0)

def unit? (cs : List Char) : Option (Nat × List Char) :=
  if (cs.take 4).length = 4 then (hex? (cs.take 4)).map (·, cs.drop 4) else none

/-- The character of a code unit and what follows it. A high surrogate is joined with the low one
that an escape after it gives. -/
def joinUnit (unit : Nat) (rest : List Char) : Char × List Char :=
  match rest with
  | '\\' :: 'u' :: cs =>
    match unit? cs with
    | some (low, after) =>
      if isHighSurrogate unit && isLowSurrogate low then (ofSurrogates unit low, after)
      else (ofUnit unit, rest)
    | none => (ofUnit unit, rest)
  | _ => (ofUnit unit, rest)

def simpleEscape? : Char → Option Char
  | '"' => some '"'
  | '\\' => some '\\'
  | '/' => some '/'
  | 'b' => some '\x08'
  | 'f' => some '\x0c'
  | 'n' => some '\n'
  | 'r' => some '\r'
  | 't' => some '\t'
  | _ => none

def string? : Nat → List Char → List Char → Option (String × List Char)
  | 0, _, _ => none
  | fuel + 1, done, cs =>
    match cs with
    | [] => none
    | '"' :: rest => some (String.ofList done.reverse, rest)
    | '\\' :: 'u' :: rest =>
      match unit? rest with
      | some (n, after) =>
        let (c, after) := joinUnit n after
        string? fuel (c :: done) after
      | none => none
    | '\\' :: c :: rest =>
      match simpleEscape? c with
      | some e => string? fuel (e :: done) rest
      | none => none
    | c :: rest => if c.toNat < 32 then none else string? fuel (c :: done) rest

def wholePart? (cs : List Char) : Option (List Char × List Char) :=
  match cs with
  | '0' :: rest => some (['0'], rest)
  | c :: _ => if isDigit c then some (cs.takeWhile isDigit, cs.dropWhile isDigit) else none
  | [] => none

def fractionPart (cs : List Char) : List Char × List Char :=
  match cs with
  | '.' :: rest =>
    match rest.takeWhile isDigit with
    | [] => ([], cs)
    | ds => ('.' :: ds, rest.dropWhile isDigit)
  | _ => ([], cs)

def exponentPart (cs : List Char) : List Char × List Char :=
  match cs with
  | e :: rest =>
    if e = 'e' ∨ e = 'E' then
      let (sign, body) := match rest with
        | '-' :: r => (['-'], r)
        | '+' :: r => (['+'], r)
        | r => ([], r)
      match body.takeWhile isDigit with
      | [] => ([], cs)
      | ds => (e :: sign ++ ds, body.dropWhile isDigit)
    else ([], cs)
  | [] => ([], cs)

def integer (negative : Bool) (ds : List Char) : Except Flaw Value :=
  if mostDigits < ds.length then .error (.scalar (.tooManyDigits ds.length))
  else .ok (.int (if negative then -(natOf ds : Int) else natOf ds))

def number (cs : List Char) : Except Flaw (Value × List Char) :=
  let (sign, body) := match cs with
    | '-' :: r => (['-'], r)
    | r => ([], r)
  match wholePart? body with
  | none => .error .malformed
  | some (whole, rest) =>
    let (fraction, rest) := fractionPart rest
    let (exponent, rest) := exponentPart rest
    if fraction.isEmpty && exponent.isEmpty then
      (integer (!sign.isEmpty) whole).map (·, rest)
    else
      (orMalformed (decimal? (sign ++ whole ++ fraction ++ exponent))).map fun d =>
        (.float d.toFloat, rest)

def literals : List (List Char × Value) :=
  [("null".toList, .null), ("true".toList, .bool true), ("false".toList, .bool false),
    ("NaN".toList, .float (0.0 / 0.0)), ("Infinity".toList, .float (1.0 / 0.0)),
    ("-Infinity".toList, .float (-1.0 / 0.0))]

def scalar (cs : List Char) : Except Flaw (Value × List Char) :=
  match literals.find? (fun l => l.1.isPrefixOf cs) with
  | some (name, v) => .ok (v, cs.drop name.length)
  | none => number cs

def quotedText (fuel : Nat) (cs : List Char) : Except Flaw (String × List Char) :=
  orMalformed (string? fuel [] cs)

mutual

def value (depth : Nat) : Nat → List Char → Except Flaw (Value × List Char)
  | 0, _ => .error .malformed
  | fuel + 1, cs =>
    match skipSpace cs with
    | '"' :: rest => (quotedText fuel rest).map fun (s, r) => (.text s, r)
    | '[' :: rest =>
      if deepest ≤ depth then .error (.tooDeep false)
      else match skipSpace rest with
        | ']' :: r => .ok (.list [], r)
        | r => (items (depth + 1) fuel [] r).map fun (vs, r) => (.list vs, r)
    | '\x7b' :: rest =>
      if deepest ≤ depth then .error (.tooDeep true)
      else match skipSpace rest with
        | '\x7d' :: r => .ok (.record [], r)
        | r => (fields (depth + 1) fuel [] r).map fun (fs, r) => (.record (Fields.ofList fs), r)
    | cs => scalar cs

def items (depth : Nat) : Nat → List Value → List Char → Except Flaw (List Value × List Char)
  | 0, _, _ => .error .malformed
  | fuel + 1, done, cs =>
    match value depth fuel cs with
    | .error e => .error e
    | .ok (v, rest) =>
      match skipSpace rest with
      | ',' :: r => items depth fuel (v :: done) r
      | ']' :: r => .ok ((v :: done).reverse, r)
      | _ => .error .malformed

def fields (depth : Nat) :
    Nat → List (String × Value) → List Char → Except Flaw (List (String × Value) × List Char)
  | 0, _, _ => .error .malformed
  | fuel + 1, done, cs =>
    match skipSpace cs with
    | '"' :: rest =>
      match quotedText fuel rest with
      | .error e => .error e
      | .ok (key, rest) =>
        match skipSpace rest with
        | ':' :: rest =>
          match value depth fuel rest with
          | .error e => .error e
          | .ok (v, rest) =>
            match skipSpace rest with
            | ',' :: r => fields depth fuel ((key, v) :: done) r
            | '\x7d' :: r => .ok (((key, v) :: done).reverse, r)
            | _ => .error .malformed
        | _ => .error .malformed
    | _ => .error .malformed

end

def read (s : String) : Except Flaw Value :=
  let cs := s.toList
  match value 0 (2 * cs.length + 1) cs with
  | .ok (v, rest) => if (skipSpace rest).isEmpty then .ok v else .error .malformed
  | .error e => .error e

def read? (s : String) : Option Value :=
  (read s).toOption

def readBody (s : String) : Except Flaw Value :=
  match s.toList with
  | '\uFEFF' :: cs => read (String.ofList cs)
  | _ => (orMalformed (recoded? s)).bind read

end Folio.Document.Json

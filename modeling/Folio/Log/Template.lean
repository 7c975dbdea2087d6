import Folio.Log.Display
import Folio.Number.Fixed
import Folio.Number.Numeral
/-!
Templates of log messages. A percent sign starts a place for a value: an optional name in
parentheses, flags, width, precision, and the letter of a notation.
-/

namespace Folio.Log

open Folio.Document Folio.Number Folio.Text

inductive Arguments where
  | none
  | positional (values : List Value)
  | named (fields : List (String × Value))
  | single (value : Value)

inductive Count where
  | width
  | precision
  deriving DecidableEq, Repr

namespace Count

def name : Count → String
  | width => "width"
  | precision => "precision"

def bits : Count → Nat
  | width => 64
  | precision => 32

def store : Count → String
  | width => "ssize_t"
  | precision => "int"

def bound (c : Count) : Nat :=
  Nat.pow 2 (c.bits - 1)

end Count

inductive TemplateError where
  | tooFew
  | tooMany
  | needsNames
  | unknownName (name : String)
  | openName
  | incomplete
  | unsupported (c : Char) (index : Nat)
  | needsNumber (c : Char) (kind : String)
  | needsInteger (c : Char) (kind : String)
  | needsReal (kind : String)
  | needsCharacter
  | badCodePoint
  | starNeedsInteger
  | countTooBig (count : Count)
  | starTooBig (count : Count)
  | notFinite (isNaN : Bool)
  | tooLargeInteger
  deriving DecidableEq, Repr

namespace TemplateError

def message : TemplateError → String
  | tooFew => "not enough arguments for format string"
  | tooMany => "not all arguments converted during string formatting"
  | needsNames => "format requires a mapping"
  | unknownName name => quoted name
  | openName => "incomplete format key"
  | incomplete => "incomplete format"
  | unsupported c index =>
    let code := String.ofList (Nat.toDigits 16 c.toNat)
    let shown := if 31 ≤ c.toNat ∧ c.toNat ≤ 126 then c else '?'
    s!"unsupported format character '{shown}' (0x{code}) at index {index}"
  | needsNumber c kind => s!"%{c} format: a real number is required, not {kind}"
  | needsInteger c kind => s!"%{c} format: an integer is required, not {kind}"
  | needsReal kind => s!"must be real number, not {kind}"
  | needsCharacter => "%c requires int or char"
  | badCodePoint => "%c arg not in range(0x110000)"
  | starNeedsInteger => "* wants int"
  | countTooBig count => s!"{count.name} too big"
  | starTooBig count => s!"Python int too large to convert to C {count.store}"
  | notFinite true => "cannot convert float NaN to integer"
  | notFinite false => "cannot convert float infinity to integer"
  | tooLargeInteger => "int too large to convert to float"

end TemplateError

structure Spec where
  left : Bool := false
  plus : Bool := false
  blank : Bool := false
  alternate : Bool := false
  zero : Bool := false
  width : Nat := 0
  precision : Option Nat := none

def readFlags (spec : Spec) : List Char → Spec × List Char
  | '-' :: cs => readFlags { spec with left := true } cs
  | '+' :: cs => readFlags { spec with plus := true } cs
  | ' ' :: cs => readFlags { spec with blank := true } cs
  | '#' :: cs => readFlags { spec with alternate := true } cs
  | '0' :: cs => readFlags { spec with zero := true } cs
  | cs => (spec, cs)

def readName (depth : Nat) : List Char → Option (List Char × List Char)
  | [] => none
  | c :: cs =>
    if c = ')' then
      match depth with
      | 0 => some ([], cs)
      | d + 1 => (readName d cs).map fun (name, rest) => (c :: name, rest)
    else
      (readName (if c = '(' then depth + 1 else depth) cs).map fun (name, rest) => (c :: name, rest)

structure Supply where
  queue : List Operand
  names : Option (List (String × Operand))

namespace Supply

def ofNames (names : List (String × Operand)) (whole : Operand) : Supply :=
  ⟨[whole], some names⟩

def ofArguments : Arguments → Supply
  | .none => ⟨[], none⟩
  | .positional vs => ⟨vs.map .value, none⟩
  | .named fields =>
    .ofNames (fields.map fun (name, v) => (name, .value v)) (.value (.record fields))
  | .single v => ⟨[.value v], none⟩

def next (s : Supply) : Except TemplateError (Operand × Supply) :=
  match s.queue with
  | v :: vs => .ok (v, { s with queue := vs })
  | [] => .error .tooFew

end Supply

def padTo (spec : Spec) (cs : List Char) : List Char :=
  let margin := List.replicate (spec.width - cs.length) ' '
  if spec.left then cs ++ margin else margin ++ cs

def padNumber (spec : Spec) (negative : Bool) (mark digits : List Char) : List Char :=
  let sign :=
    if negative then ['-'] else if spec.plus then ['+'] else if spec.blank then [' '] else []
  let used := sign.length + mark.length + digits.length
  if spec.zero && !spec.left then
    sign ++ mark ++ List.replicate (spec.width - used) '0' ++ digits
  else padTo spec (sign ++ mark ++ digits)

def integerText (spec : Spec) (base : Nat) (capital : Bool) (mark : List Char) (n : Int) :
    List Char :=
  let ds := leadingZeros (spec.precision.getD 1) (Nat.toDigits base n.natAbs)
  let ds := if capital then ds.map Char.toUpper else ds
  padNumber spec (n < 0) (if spec.alternate then mark else []) ds

def truncated (x : Float) : Except TemplateError Int :=
  match Dyadic.ofFloat? x with
  | some d => .ok (d.fraction.1.tdiv d.fraction.2)
  | none => .error (.notFinite x.isNaN)

def wholeNumber (c : Char) : Operand → Except TemplateError Int
  | .value (.int n) => .ok n
  | .value (.bool b) => .ok (if b then 1 else 0)
  | .value (.float x) => truncated x
  | v => .error (.needsNumber c v.kindName)

def exactInteger (c : Char) : Operand → Except TemplateError Int
  | .value (.int n) => .ok n
  | .value (.bool b) => .ok (if b then 1 else 0)
  | v => .error (.needsInteger c v.kindName)

def realNumber : Operand → Except TemplateError Float
  | .value (.float x) => .ok x
  | .value (.int n) =>
    match (Decimal.ofInt n).toFiniteFloat? with
    | some x => .ok x
    | none => .error .tooLargeInteger
  | .value (.bool b) => .ok (if b then 1 else 0)
  | v => .error (.needsReal v.kindName)

def realText (spec : Spec) (c : Char) (x : Float) : List Char :=
  let raise := fun (cs : List Char) => if c.isUpper then cs.map Char.toUpper else cs
  match Dyadic.ofFloat? x with
  | none =>
    let name := if x.isNaN then "nan" else "inf"
    padNumber spec (x < 0) [] (raise name.toList)
  | some d =>
    let places := spec.precision.getD 6
    let digits := match c.toLower with
      | 'f' => fixedText places spec.alternate d.mantissa d.exponent
      | 'e' => scientificText places spec.alternate d.mantissa d.exponent
      | _ => generalText places spec.alternate d.mantissa d.exponent
    padNumber spec d.negative [] (raise digits)

def character : Operand → Except TemplateError (List Char)
  | .value (.int n) =>
    if 0 ≤ n ∧ n < 0x110000 then .ok [Char.ofNat n.toNat] else .error .badCodePoint
  | .value (.bool b) => .ok [if b then '\x01' else '\x00']
  | .value (.text s) => if s.length = 1 then .ok s.toList else .error .needsCharacter
  | _ => .error .needsCharacter

def clipped (spec : Spec) (s : String) : List Char :=
  padTo spec (match spec.precision with
    | some n => s.toList.take n
    | none => s.toList)

def asciiOnly (s : String) : String :=
  String.ofList (s.toList.flatMap fun c =>
    if c.toNat < 128 then [c]
    else if c.toNat ≤ 0xFF then '\\' :: 'x' :: hexDigits 2 c.toNat
    else if c.toNat ≤ 0xFFFF then '\\' :: 'u' :: hexDigits 4 c.toNat
    else '\\' :: 'U' :: hexDigits 8 c.toNat)

def convert (spec : Spec) (c : Char) (index : Nat) (v : Operand) :
    Except TemplateError (List Char) :=
  match c with
  | 's' => .ok (clipped spec v.shown)
  | 'r' => .ok (clipped spec v.literal)
  | 'a' => .ok (clipped spec (asciiOnly v.literal))
  | 'c' => (character v).map (padTo spec)
  | 'd' | 'i' | 'u' => (wholeNumber c v).map (integerText spec 10 false [])
  | 'o' => (exactInteger c v).map (integerText spec 8 false ['0', 'o'])
  | 'x' => (exactInteger c v).map (integerText spec 16 false ['0', 'x'])
  | 'X' => (exactInteger c v).map (integerText spec 16 true ['0', 'X'])
  | 'e' | 'E' | 'f' | 'F' | 'g' | 'G' => (realNumber v).map (realText spec c)
  | _ => .error (.unsupported c index)

def readCount (count : Count) (s : Supply) (cs : List Char) :
    Except TemplateError (Option Int × Supply × List Char) :=
  match cs with
  | '*' :: rest =>
    match s.next with
    | .error e => .error e
    | .ok (.value (.int n), s) =>
      if -count.bound ≤ n ∧ n < count.bound then .ok (some n, s, rest)
      else .error (.starTooBig count)
    | .ok (.value (.bool b), s) => .ok (some (if b then 1 else 0), s, rest)
    | .ok _ => .error .starNeedsInteger
  | _ =>
    match cs.takeWhile isDigit with
    | [] => .ok (none, s, cs)
    | ds =>
      if natOf ds < count.bound then .ok (some (natOf ds), s, cs.dropWhile isDigit)
      else .error (.countTooBig count)

def withWidth (spec : Spec) : Option Int → Spec
  | none => spec
  | some n => if n < 0 then { spec with left := true, width := n.natAbs }
      else { spec with width := n.natAbs }

def readPlaceName (s : Supply) (cs : List Char) : Except TemplateError (Supply × List Char) :=
  match cs with
  | '(' :: rest =>
    match s.names with
    | none => .error .needsNames
    | some fields =>
      match readName 0 rest with
      | none => .error .openName
      | some (name, rest) =>
        match fields.lookup (String.ofList name) with
        | some v => .ok ({ s with queue := [v] }, rest)
        | none => .error (.unknownName (String.ofList name))
  | _ => .ok (s, cs)

def readPrecision (s : Supply) (spec : Spec) (cs : List Char) :
    Except TemplateError (Spec × Supply × List Char) :=
  match cs with
  | '.' :: rest =>
    match readCount .precision s rest with
    | .error e => .error e
    | .ok (n, s, rest) => .ok ({ spec with precision := some (n.getD 0).toNat }, s, rest)
  | _ => .ok (spec, s, cs)

def skipSize : List Char → List Char
  | 'h' :: cs => cs
  | 'l' :: cs => cs
  | 'L' :: cs => cs
  | cs => cs

def fillPlace (total : Nat) (s : Supply) (cs : List Char) :
    Except TemplateError (List Char × Supply × List Char) := do
  let (s, cs) ← readPlaceName s cs
  let (spec, cs) := readFlags {} cs
  let (width, s, cs) ← readCount .width s cs
  let (spec, s, cs) ← readPrecision s (withWidth spec width) cs
  match skipSize cs with
  | [] => .error .incomplete
  | c :: rest =>
    let (v, s) ← s.next
    let shown ← convert spec c (total - rest.length - 1) v
    return (shown, s, rest)

def fillFrom (total : Nat) : Nat → Supply → List Char → Except TemplateError (List Char)
  | 0, _, _ => .ok []
  | fuel + 1, s, cs =>
    match cs with
    | [] =>
      if s.queue.isEmpty || s.names.isSome then .ok [] else .error .tooMany
    | '%' :: '%' :: rest => (fillFrom total fuel s rest).map ('%' :: ·)
    | '%' :: rest => do
      let (shown, s, rest) ← fillPlace total s rest
      return shown ++ (← fillFrom total fuel s rest)
    | c :: rest => (fillFrom total fuel s rest).map (c :: ·)

def fillWith (template : String) (s : Supply) : Except TemplateError String :=
  let cs := template.toList
  (fillFrom cs.length (cs.length + 1) s cs).map String.ofList

def fill (template : String) (arguments : Arguments) : Except TemplateError String :=
  fillWith template (.ofArguments arguments)

end Folio.Log

import Folio.Document.Value
import Folio.Number.Binary
import Folio.Number.Numeral
import Folio.Time.Iso
/-!
Decoding documents into typed values. A decoder reports every failure it finds, each with the path
to the offending value; the fields of a record are checked in order.
-/

namespace Folio.Document

open Folio.Number Folio.Time

inductive Step where
  | key (name : String)
  | index (i : Nat)
  deriving DecidableEq, Repr

inductive Complaint where
  | missing
  | notRecord
  | notAttributes
  | notText
  | notList
  | notMapping
  | notInteger
  | unreadableInteger
  | oversizedInteger
  | fractionalInteger
  | infiniteInteger
  | tooSmall
  | tooLarge
  | notBoolean
  | unreadableBoolean
  | notNumber
  | unreadableNumber
  | notAbove
  | notMember
  | notLiteral
  | notMoment
  | unreadableMoment
  | untagged
  | unknownTag
  | notForm
  | refused (reason : String)
  deriving DecidableEq, Repr

def Complaint.code : Complaint → String
  | missing => "missing"
  | notRecord => "model_type"
  | notAttributes => "model_attributes_type"
  | notText => "string_type"
  | notList => "list_type"
  | notMapping => "dict_type"
  | notInteger => "int_type"
  | unreadableInteger => "int_parsing"
  | oversizedInteger => "int_parsing_size"
  | fractionalInteger => "int_from_float"
  | infiniteInteger => "finite_number"
  | tooSmall => "greater_than_equal"
  | tooLarge => "less_than_equal"
  | notBoolean => "bool_type"
  | unreadableBoolean => "bool_parsing"
  | notNumber => "float_type"
  | unreadableNumber => "float_parsing"
  | notAbove => "greater_than"
  | notMember => "enum"
  | notLiteral => "literal_error"
  | notMoment => "datetime_type"
  | unreadableMoment => "datetime_parsing"
  | untagged => "union_tag_not_found"
  | unknownTag => "union_tag_invalid"
  | notForm => "is_instance_of"
  | refused _ => "value_error"

def Complaint.message? : Complaint → Option String
  | refused reason => some s!"Value error, {reason}"
  | _ => none

structure Issue where
  path : List Step
  complaint : Complaint
  deriving DecidableEq, Repr

inductive Decoded (α : Type) where
  | ok (value : α)
  | failed (issues : List Issue)

namespace Decoded

def map (f : α → β) : Decoded α → Decoded β
  | ok a => ok (f a)
  | failed is => failed is

/-- Applies a decoded function; the failures of both sides are reported, left before right. -/
def app (f : Decoded (α → β)) (x : Decoded α) : Decoded β :=
  match f, x with
  | ok f, ok a => ok (f a)
  | ok _, failed js => failed js
  | failed is, ok _ => failed is
  | failed is, failed js => failed (is ++ js)

instance : Applicative Decoded where
  pure := ok
  map := map
  seq f x := app f (x ())

def andThen (x : Decoded α) (f : α → Decoded β) : Decoded β :=
  match x with
  | ok a => f a
  | failed is => failed is

def under (step : Step) : Decoded α → Decoded α
  | ok a => ok a
  | failed is => failed (is.map fun i => { i with path := step :: i.path })

def complain (c : Complaint) : Decoded α :=
  failed [⟨[], c⟩]

end Decoded

abbrev Decoder (α : Type) := Value → Decoded α

open Decoded

def text : Decoder String
  | .text s => ok s
  | _ => complain .notText

def nullable (decode : Decoder α) : Decoder (Option α)
  | .null => ok none
  | v => (decode v).map some

def wordBound : Int := 9223372036854775808

def integerOfFloat (x : Float) : Decoded Int :=
  if !x.isFinite then complain .infiniteInteger
  else match integer? x with
    | none => complain .fractionalInteger
    | some n =>
      if -wordBound < n ∧ n < wordBound then ok n else complain .oversizedInteger

def integer : Decoder Int
  | .int n => ok n
  | .bool b => ok (if b then 1 else 0)
  | .float x => integerOfFloat x
  | .text s =>
    match documentInt s with
    | .value n => ok n
    | .tooLong => complain .oversizedInteger
    | .malformed => complain .unreadableInteger
  | _ => complain .notInteger

def integerBetween (lo hi : Int) (v : Value) : Decoded Int :=
  (integer v).andThen fun n =>
    if n < lo then complain .tooSmall else if hi < n then complain .tooLarge else ok n

def truthWords : List String := ["1", "true", "t", "yes", "y", "on"]

def falsehoodWords : List String := ["0", "false", "f", "no", "n", "off"]

def booleanOfInt (n : Int) : Decoded Bool :=
  if n = 0 then ok false else if n = 1 then ok true else complain .unreadableBoolean

def boolean : Decoder Bool
  | .bool b => ok b
  | .int n =>
    if -wordBound ≤ n ∧ n < wordBound then booleanOfInt n else complain .notBoolean
  | .float x =>
    match integerOfFloat x with
    | .ok n => booleanOfInt n
    | .failed _ => complain .notBoolean
  | .text s =>
    let word := String.ofList (s.toList.map Char.toLower)
    if truthWords.contains word then ok true
    else if falsehoodWords.contains word then ok false
    else complain .unreadableBoolean
  | _ => complain .notBoolean

def number : Decoder Float
  | .float x => ok x
  | .bool b => ok (if b then 1 else 0)
  | .int n =>
    match (Decimal.ofInt n).toFiniteFloat? with
    | some x => ok x
    | none => complain .notNumber
  | .text s =>
    match documentFloat? s with
    | some x => ok x
    | none => complain .unreadableNumber
  | _ => complain .notNumber

def positive (v : Value) : Decoded Float :=
  (number v).andThen fun x => if 0 < x then ok x else complain .notAbove

def momentOf (t : Option Moment) : Decoded Moment :=
  match t with
  | some t => ok t
  | none => complain .unreadableMoment

def moment : Decoder Moment
  | .moment t => ok t
  | .date d => ok (.midnight d)
  | .text s => momentOf (Moment.ofText? s)
  | .int n =>
    match (Decimal.ofInt n).toFiniteFloat? with
    | some _ => momentOf (Moment.ofInt? n)
    | none => complain .notMoment
  | .float x => momentOf (Moment.ofFloat? x)
  | _ => complain .notMoment

def oneOf (complaint : Complaint) (named : String → Option α) : Decoder α
  | .text s =>
    match named s with
    | some a => ok a
    | none => complain complaint
  | _ => complain complaint

def items (decode : Decoder α) : Nat → List Value → Decoded (List α)
  | _, [] => ok []
  | i, v :: vs => (· :: ·) <$> (decode v).under (.index i) <*> items decode (i + 1) vs

def list (decode : Decoder α) : Decoder (List α)
  | .list vs => items decode 0 vs
  | _ => complain .notList

def entries (decode : Decoder α) : Fields → Decoded (List (String × α))
  | [] => ok []
  | (k, v) :: fields =>
    (fun a rest => (k, a) :: rest) <$> (decode v).under (.key k) <*> entries decode fields

def mapping (decode : Decoder α) : Decoder (List (String × α))
  | .record fields => entries decode fields
  | _ => complain .notMapping

/-- The two spellings of a field's key; the first one counts when a record holds both. -/
structure Spelling where
  camel : String
  snake : String
  deriving DecidableEq, Repr

def Spelling.plain (key : String) : Spelling := ⟨key, key⟩

inductive KeyStyle where
  | camel
  | snake
  deriving DecidableEq, Repr

def Spelling.key (s : Spelling) : KeyStyle → String
  | .camel => s.camel
  | .snake => s.snake

def Fields.find? (fields : Fields) (s : Spelling) : Option (String × Value) :=
  match fields.get? s.camel with
  | some v => some (s.camel, v)
  | none => (fields.get? s.snake).map (s.snake, ·)

def required (fields : Fields) (s : Spelling) (decode : Decoder α) : Decoded α :=
  match fields.find? s with
  | some (k, v) => (decode v).under (.key k)
  | none => failed [⟨[.key s.camel], .missing⟩]

def optional (fields : Fields) (s : Spelling) (default : α) (decode : Decoder α) : Decoded α :=
  match fields.find? s with
  | some (k, v) => (decode v).under (.key k)
  | none => ok default

def record (decode : Fields → Decoded α) : Decoder α
  | .record fields => decode fields
  | _ => complain .notRecord

end Folio.Document

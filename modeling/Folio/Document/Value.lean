import Folio.Time.Moment
/-!
Decoded documents: what a JSON or YAML text holds. Integers and other numbers are kept apart, and
records keep their fields in order.
-/

namespace Folio.Document

open Folio.Time

inductive Value where
  | null
  | bool (b : Bool)
  | int (n : Int)
  | float (x : Float)
  | text (s : String)
  | date (d : Date)
  | moment (t : Moment)
  | list (items : List Value)
  | record (fields : List (String × Value))
  deriving Inhabited

abbrev Fields := List (String × Value)

namespace Fields

def get? (fields : Fields) (key : String) : Option Value :=
  fields.lookup key

def put (key : String) (value : Value) : Fields → Fields
  | [] => [(key, value)]
  | (k, v) :: fields => if k = key then (k, value) :: fields else (k, v) :: put key value fields

/-- Of several fields with one key the last gives the value and the first the place. -/
def ofList (pairs : List (String × Value)) : Fields :=
  pairs.foldl (fun fields (k, v) => put k v fields) []

end Fields

namespace Value

def isTruthy : Value → Bool
  | null => false
  | bool b => b
  | int n => n != 0
  | float x => x != 0
  | text s => !s.isEmpty
  | date _ => true
  | moment _ => true
  | list items => !items.isEmpty
  | record fields => !fields.isEmpty

def kindName : Value → String
  | null => "NoneType"
  | bool _ => "bool"
  | int _ => "int"
  | float _ => "float"
  | text _ => "str"
  | date _ => "datetime.date"
  | moment _ => "datetime.datetime"
  | list _ => "list"
  | record _ => "dict"

/-- What a walk through a value meets: items, keys or characters. Other values are not walked. -/
def members? : Value → Option (List Value)
  | list vs => some vs
  | record fields => some (fields.map fun (k, _) => text k)
  | text s => some (s.toList.map fun c => text (String.singleton c))
  | _ => none

def ofOption (f : α → Value) : Option α → Value
  | none => null
  | some a => f a

end Value

end Folio.Document

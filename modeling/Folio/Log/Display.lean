import Folio.Document.Value
import Folio.Number.Shortest
import Folio.Text.Layout
import Folio.Text.Quoted
import Folio.Time.Iso

namespace Folio.Log

open Folio.Document Folio.Number Folio.Text

mutual

def literal : Value → String
  | .null => "None"
  | .bool b => if b then "True" else "False"
  | .int n => toString n
  | .float x => floatText x
  | .text s => quoted s
  | .date d => String.ofList d.iso
  | .moment t => t.toIsoDigits
  | .list vs => "[" ++ listed (literals vs) ++ "]"
  | .record fields => "\x7b" ++ listed (fieldLiterals fields) ++ "\x7d"

def literals : List Value → List String
  | [] => []
  | v :: vs => literal v :: literals vs

def fieldLiterals : List (String × Value) → List String
  | [] => []
  | (k, v) :: rest => (quoted k ++ ": " ++ literal v) :: fieldLiterals rest

end

def shown : Value → String
  | .text s => s
  | v => literal v

/-- What stands in a place of a message: a value, or all the arguments of another message. -/
inductive Operand where
  | value (v : Value)
  | group (vs : List Value)

namespace Operand

def literal : Operand → String
  | value v => Log.literal v
  | group [v] => "(" ++ Log.literal v ++ ",)"
  | group vs => "(" ++ listed (literals vs) ++ ")"

def shown : Operand → String
  | value v => Log.shown v
  | o => o.literal

def kindName : Operand → String
  | value v => v.kindName
  | group _ => "tuple"

end Operand

end Folio.Log

import Folio.Log.Redaction
import Folio.Log.Template
import Folio.Settings.Basic
import Folio.Text.Word

namespace Folio.Log

open Folio.Document Folio.Number Folio.Text

inductive LineError where
  | noPlace (template : String)
  | badMessage (error : TemplateError)
  | badLine (error : TemplateError)
  deriving DecidableEq, Repr

def LineError.message : LineError → String
  | noPlace template => s!"Invalid format '{template}' for '%' style"
  | badMessage e => e.message
  | badLine (.unknownName name) => s!"Formatting field not found in record: {quoted name}"
  | badLine e => e.message

def dropCount : List Char → List Char
  | '*' :: cs => cs
  | cs => cs.dropWhile isDecimalDigit

def dropPlaces (cs : List Char) : List Char :=
  match cs with
  | '.' :: rest => if (dropCount rest).length < rest.length then dropCount rest else cs
  | cs => cs

def notationLetters : List Char :=
  "diouxefgcrsaDIOUXEFGCRSA%\u0130\u0131\u017f".toList

def startsPlace : List Char → Bool
  | '(' :: cs =>
    let name := cs.takeWhile isWordChar
    match cs.drop name.length with
    | ')' :: rest =>
      let rest := rest.dropWhile fun c => ['#', '0', '+', ' ', '-'].contains c
      !name.isEmpty && (dropPlaces (dropCount rest)).head?.any notationLetters.contains
    | _ => false
  | _ => false

def hasPlace : List Char → Bool
  | [] => false
  | c :: cs => (c == '%' && startsPlace cs) || hasPlace cs

structure Record where
  level : LogLevel
  logger : String
  line : Int := 0
  message : Value
  arguments : Arguments := .none
  tag : Option String := none

def productionTag : String := "prod"

mutual

def redactValue (mask : String) : Value → Value
  | .text s => .text (redactEmail s mask)
  | .list vs => .list (redactValues mask vs)
  | .record fields => .record (redactFields mask fields)
  | v => v

def redactValues (mask : String) : List Value → List Value
  | [] => []
  | v :: vs => redactValue mask v :: redactValues mask vs

def redactFields (mask : String) : List (String × Value) → List (String × Value)
  | [] => []
  | (k, v) :: rest => (k, redactValue mask v) :: redactFields mask rest

end

namespace Arguments

def isPresent : Arguments → Bool
  | none => false
  | positional vs => !vs.isEmpty
  | named fields => !fields.isEmpty
  | single v => v.isTruthy

def redacted (mask : String) : Arguments → Arguments
  | positional vs => positional (redactValues mask vs)
  | named fields => named (redactFields mask fields)
  | a => a

def operand : Arguments → Operand
  | none => .value .null
  | positional vs => .group vs
  | named fields => .value (.record fields)
  | single v => .value v

def ofCall : List Value → Arguments
  | [.record fields] => if fields.isEmpty then positional [.record fields] else named fields
  | vs => positional vs

end Arguments

namespace Record

def redacted (mask : String) (r : Record) : Record :=
  { r with
    message := match r.message with
      | .text s => .text (redactEmail s mask)
      | v => v
    arguments := r.arguments.redacted mask }

def text (r : Record) : Except TemplateError String :=
  if r.arguments.isPresent then fill (shown r.message) r.arguments else .ok (shown r.message)

def fields (r : Record) (text : String) : Fields := [
  ("name", .text r.logger), ("levelname", .text r.level.name), ("levelno", .int r.level.severity),
  ("lineno", .int r.line), ("message", .text text), ("msg", r.message),
  ("env_tag", .text (r.tag.getD productionTag)), ("threadName", .text "MainThread"),
  ("processName", .text "MainProcess"), ("funcName", .null), ("exc_info", .null),
  ("exc_text", .null), ("stack_info", .null)]

def supply (r : Record) (text : String) : Supply :=
  let fields := r.fields text
  .ofNames (("args", r.arguments.operand) :: fields.map fun (name, v) => (name, .value v))
    (.value (.record fields))

def format (template : String) (r : Record) : Except LineError String :=
  if !hasPlace template.toList then .error (.noPlace template)
  else match r.text with
    | .error e => .error (.badMessage e)
    | .ok text => (fillWith template (r.supply text)).mapError .badLine

end Record

end Folio.Log

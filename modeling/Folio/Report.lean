import Folio.Document.Value
import Folio.Log.Display

namespace Folio

open Folio.Document

inductive ReportKind where
  | general
  | registration
  | configuration
  | portfolioData
  deriving DecidableEq, Repr

namespace ReportKind

def all : List ReportKind := [general, registration, configuration, portfolioData]

def name : ReportKind → String
  | general => "PortfolioTerminalError"
  | registration => "CommandRegistrationError"
  | configuration => "ConfigurationError"
  | portfolioData => "PortfolioDataError"

def named? (s : String) : Option ReportKind :=
  all.find? (·.name = s)

def standardMessage : ReportKind → String
  | general => ""
  | registration => "Command registration failed"
  | configuration => "Configuration error"
  | portfolioData => "Portfolio data unavailable"

def attribute? : ReportKind → Option String
  | registration => some "command_name"
  | portfolioData => some "source"
  | _ => none

def positions (k : ReportKind) : List String :=
  "message" :: k.attribute?.toList ++ ["details"]

end ReportKind

def textKey : String := "args"

/-- The attribute that a value would hide the document of a report behind. -/
def documentKey : String := "to_dict"

inductive PartsFault where
  | twice (kind : ReportKind) (name : String)
  | tooMany (kind : ReportKind) (count : Nat)
  | noMessage (kind : ReportKind)
  | notIterable (kind : String)
  | notCallable (kind : String)
  deriving DecidableEq, Repr

def PartsFault.message : PartsFault → String
  | twice k name => s!"{k.name}.__init__() got multiple values for argument {Text.quoted name}"
  | tooMany k count =>
    let most := k.positions.length + 1
    let least := if k = .general then 2 else 1
    s!"{k.name}.__init__() takes from {least} to {most} positional arguments but {count + 1} " ++
      "were given"
  | noMessage k => s!"{k.name}.__init__() missing 1 required positional argument: 'message'"
  | notIterable kind => s!"'{kind}' object is not iterable"
  | notCallable kind => s!"'{kind}' object is not callable"

structure Report where
  kind : ReportKind
  message : Value
  details : Value
  attributes : Fields
  arguments : List Value

namespace Report

def detailsOf (given : Option Value) : Value :=
  match given with
  | some v => if v.isTruthy then v else .record []
  | none => .record []

def partsOf (k : ReportKind) (parts : List Value) (named : Fields) : Except PartsFault Fields :=
  let placed := k.positions.zip parts
  let taken := "self" :: placed.map (·.1)
  match (named.map (·.1)).find? taken.contains with
  | some key => .error (.twice k key)
  | none =>
    let given := placed ++ named
    if k.positions.length < parts.length then .error (.tooMany k parts.length)
    else if k = .general ∧ (Fields.get? given "message").isNone then .error (.noMessage k)
    else .ok given

def argumentsOf (message : Value) (extra : Fields) : Except PartsFault (List Value) :=
  match Fields.get? extra textKey with
  | none => .ok [message]
  | some v =>
    match v.members? with
    | some vs => .ok vs
    | none => .error (.notIterable v.kindName)

def ofParts (k : ReportKind) (parts : List Value) (named : Fields) : Except PartsFault Report := do
  let given ← partsOf k parts named
  let message := (Fields.get? given "message").getD (.text k.standardMessage)
  let extra := given.filter fun (key, _) => !k.positions.contains key
  let own := k.attribute?.toList.map fun key => (key, (Fields.get? given key).getD .null)
  let arguments ← argumentsOf message extra
  match Fields.get? extra documentKey with
  | some v => .error (.notCallable v.kindName)
  | none => return {
      kind := k
      message
      details := detailsOf (Fields.get? given "details")
      attributes := extra ++ own
      arguments }

def isPublic (key : String) : Bool :=
  key.toList.head? != some '_' && key != textKey

def toDocument (r : Report) : Value :=
  let shown := r.attributes.filter fun (key, _) => isPublic key
  .record [("error", .record (shown.foldl (fun o (key, v) => Fields.put key v o)
    [("message", r.message), ("type", .text r.kind.name), ("details", r.details)]))]

def text (r : Report) : String :=
  match r.arguments with
  | [] => ""
  | [v] => Log.shown v
  | vs => (Log.Operand.group vs).literal

end Report

end Folio

import Folio.Log.Record
import Folio.Session

namespace Folio.Log

open Folio.Command Folio.Document Folio.Terminal Folio.Text

def reservedKeys : List String := ["event", "stack_info", "exc_info"]

def eventText (event : String) (context fields : Fields) : String :=
  let all := Fields.put "level" (.text "info")
    (fields.foldl (fun o (k, v) => Fields.put k v o) context)
  let others := all.filter fun (k, _) => !reservedKeys.contains k
  joined " " ((("event", .text event) :: others).map fun (k, v) => k ++ "=" ++ literal v)

inductive NameClash where
  | ofContext (name : String)
  | ofField (name : String)
  | ofMethod
  deriving DecidableEq, Repr

def NameClash.message : NameClash → String
  | ofContext name => s!"LogContext.__init__() got multiple values for argument {quoted name}"
  | ofField name => s!"BoundLogger.info() got multiple values for argument {quoted name}"
  | ofMethod => "BoundLogger._proxy_to_logger() got multiple values for argument 'method_name'"

def nameClash? (context fields : Fields) : Option NameClash :=
  let first := fun (taken : List String) (o : Fields) => (o.map (·.1)).find? taken.contains
  match first ["self", "logger"] context, first ["self", "event"] fields with
  | some name, _ => some (.ofContext name)
  | none, some name => some (.ofField name)
  | none, none => (first ["method_name"] fields).map fun _ => .ofMethod

def eventRecord (logger event : String) (context fields : Fields) : Record :=
  { level := .info, logger, message := .text (eventText event context fields) }

def commandsLogger : String := "portfolio_terminal.core.commands"

def serviceLogger : String := commandsLogger ++ ".service"

def textList (ss : List String) : Value := .list (ss.map .text)

def registration (h : Handler) : Record :=
  { level := .debug
    logger := commandsLogger ++ ".registry"
    message := .text "Registered command: %s (aliases: %s)"
    arguments := .positional [.text (lower h.info.name), textList (h.info.aliases.map lower)] }

def ready (size : Nat) : Record :=
  { level := .info
    logger := serviceLogger
    message := .text "Command service ready with %d commands"
    arguments := .positional [.int size] }

def ofService (s : Service) : List Record :=
  s.registry.commands.map (fun (_, h) => registration h) ++ [ready s.registry.size]

def themeChange (before after : Theme) : Record :=
  { level := .debug
    logger := "portfolio_terminal.core.domain.theme"
    message := .text "Theme changed from %s to %s"
    arguments := .positional [.text before.name, .text after.name] }

def unknownTheme (name : String) : Record :=
  { level := .debug
    logger := commandsLogger ++ ".handlers.theme_handler"
    message := .text "Unknown theme requested: %s"
    arguments := .positional [.text name] }

def themeRecords (i : Invocation) (current : Theme) : List Record :=
  match i.args with
  | [] => []
  | arg :: _ =>
    match Theme.named? (lower arg) with
    | some chosen => [themeChange current chosen]
    | none => [unknownTheme (lower arg)]

def commandFailure (name : String) : Record :=
  { level := .error
    logger := serviceLogger
    message := .text "Command '%s' failed"
    arguments := .positional [.text name] }

def ofInvocation (r : Registry) (i : Invocation) (context : Context) : List Record :=
  let name := lower i.command
  let resolved := r.resolve name
  let about : Fields := [("command", .text name), ("resolved", .text resolved)]
  if name.isEmpty then []
  else match r.get? resolved with
    | none =>
      [eventRecord serviceLogger "command_not_found" about
        [("suggestions", textList (r.suggestions name))]]
    | some h =>
      let own := if resolved = Builtin.theme.name then themeRecords i context.theme else []
      match h.run i { context with visible := r.visible.map (·.info) } with
      | .ok result =>
        own ++ [eventRecord serviceLogger "command_executed" about
          [("success", .bool result.output.success)]]
      | .error _ => own ++ [commandFailure resolved]

def ofSubmission (s : Session) (line : String) : List Record :=
  let line := strip line
  if line.isEmpty then []
  else ofInvocation s.service.registry (Invocation.parse line) (s.entered line).context

def ofSubmissions (s : Session) : List String → List Record
  | [] => []
  | line :: lines => ofSubmission s line ++ ofSubmissions (s.submit line).2 lines

def Record.masked (r : Record) : Nat → Record
  | 0 => r
  | n + 1 => (r.redacted standardMask).masked n

def Record.lineOf? (template : String) (masks : Nat) (r : Record) : Option String :=
  match (r.masked masks).format template with
  | .ok text => some (text ++ "\n")
  | .error _ => none

def atLevel (threshold : LogLevel) (rs : List Record) : List Record :=
  rs.filter fun r => threshold.severity ≤ r.level.severity

def consoleMasks : Nat := 1

/-- The file gets the records that the console has masked, and masks them again. -/
def fileMasks : Nat := 2

def written (template : String) (threshold : LogLevel) (masks : Nat) (rs : List Record) : String :=
  joined "" ((atLevel threshold rs).filterMap (Record.lineOf? template masks))

def sameOnConsole (template : String) (threshold : LogLevel) (rs : List Record) : Bool :=
  (atLevel threshold rs).all fun r =>
    let line? := r.lineOf? template consoleMasks
    line?.isSome && line? == r.lineOf? template fileMasks

end Folio.Log

import Folio.Command.Completion
import Folio.Text.Layout

namespace Folio.Command

open Folio.Text

def noCommand : Output :=
  .failure (.plain "") "No command entered"

def notFound (r : Registry) (command : String) : Output :=
  let hint := match r.suggestions command with
    | [] => ""
    | names => s!"\n\nDid you mean: {listed names}?"
  .failure (.plain s!"Command not found: {command}{hint}") s!"Command not found: {command}"

def failed (fault : Fault) : Output :=
  let message := if fault.message.isEmpty then "Unknown error occurred" else fault.message
  .failure (.plain s!"Error executing command: {message}") message

def Registry.execute (r : Registry) (i : Invocation) (context : Context) : Except Fault Result :=
  let command := lower i.command
  if command.isEmpty then .ok ⟨noCommand, context.theme⟩
  else
    match r.get? (r.resolve command) with
    | none => .ok ⟨notFound r command, context.theme⟩
    | some h =>
      match h.run i { context with visible := r.visible.map (·.info) } with
      | .ok result => .ok result
      | .error .interrupted => .error .interrupted
      | .error fault => .ok ⟨failed fault, context.theme⟩

end Folio.Command

import Folio.Command.Handler
import Folio.Text.Case

namespace Folio.Command

open Folio.Text

inductive RegistrationError where
  | noName
  | nameTaken (name : String)
  | aliasTaken (name taken : String)
  | declared (name : String)
  deriving DecidableEq, Repr

namespace RegistrationError

def message : RegistrationError → String
  | noName => "Command name must be a non-empty string."
  | nameTaken name => s!"Command '{name}' is already registered."
  | aliasTaken name taken =>
    s!"Alias '{taken}' of command '{name}' collides with an existing entry."
  | declared name => s!"Command '{name}' is already declared."

def commandName? : RegistrationError → Option String
  | noName => none
  | nameTaken name => some name
  | aliasTaken name _ => some name
  | declared name => some name

def alias? : RegistrationError → Option String
  | aliasTaken _ taken => some taken
  | _ => none

end RegistrationError

structure Registry where
  commands : List (String × Handler) := []
  aliases : List (String × String) := []

namespace Registry

def hasName (r : Registry) (key : String) : Bool :=
  r.commands.any (·.1 = key)

def hasAlias (r : Registry) (key : String) : Bool :=
  r.aliases.any (·.1 = key)

def isTaken (r : Registry) (key : String) : Bool :=
  r.hasName key || r.hasAlias key

def badAlias? (r : Registry) (name : String) (aliases : List String) : Option String :=
  aliases.find? fun a => a = name || r.isTaken a || 1 < aliases.count a

def register (r : Registry) (h : Handler) : Except RegistrationError Registry :=
  let name := lower h.info.name
  let aliases := h.info.aliases.map lower
  if name.isEmpty then .error .noName
  else if r.isTaken name then .error (.nameTaken name)
  else match r.badAlias? name aliases with
    | some a => .error (.aliasTaken name a)
    | none => .ok ⟨r.commands ++ [(name, h)], r.aliases ++ aliases.map (·, name)⟩

def resolve (r : Registry) (name : String) : String :=
  let key := lower name
  (r.aliases.lookup key).getD key

def get? (r : Registry) (name : String) : Option Handler :=
  r.commands.lookup (r.resolve name)

def hasCommand (r : Registry) (name : String) : Bool :=
  r.isTaken (lower name)

def size (r : Registry) : Nat :=
  r.commands.length

def visible (r : Registry) : List Handler :=
  (r.commands.filter (!·.2.info.hidden)).map (·.2)

def names (r : Registry) : List String :=
  r.commands.map (·.1)

def visibleNames (r : Registry) : List String :=
  (r.commands.filter (!·.2.info.hidden)).map (·.1)

def hiddenNames (r : Registry) : List String :=
  (r.commands.filter (·.2.info.hidden)).map (·.1)

end Registry

end Folio.Command

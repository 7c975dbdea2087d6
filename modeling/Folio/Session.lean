import Folio.Terminal.Builtin

namespace Folio

open Folio.Command Folio.Portfolio Folio.Terminal Folio.Text Folio.Time

inductive LineKind where
  | command
  | output
  | error
  deriving DecidableEq, Repr

def LineKind.name : LineKind → String
  | command => "command"
  | output => "output"
  | error => "error"

structure Line where
  kind : LineKind
  content : String
  output : Option Output := none

structure Session where
  service : Service
  data : Option Snapshot := none
  theme : Theme
  now : Moment
  log : List Line := []
  history : List String := []
  browsing : Option Nat := none

inductive Direction where
  | up
  | down
  deriving DecidableEq, Repr

def Direction.named? (s : String) : Option Direction :=
  if s = "up" then some .up else if s = "down" then some .down else none

namespace Session

def start (service : Service) (data : Option Snapshot) (now : Moment) : Session :=
  ⟨service, data, service.settings.terminal.theme, now, [], [], none⟩

def launch (service : Service) (data : Option Snapshot) (theme : Option Theme) (now : Moment) :
    Except String Session :=
  let chosen : Except String Theme := match theme with
    | some t => .ok t
    | none => Theme.initial service.settings.terminal.theme.name
  chosen.map fun t => { service, data, theme := t, now }

def context (s : Session) : Context :=
  ⟨s.theme, s.history, s.data, s.now, []⟩

def entered (s : Session) (line : String) : Session :=
  { s with
    log := s.log ++ [⟨.command, line, none⟩]
    history := s.history ++ [line]
    browsing := none }

def answered (s : Session) (r : Result) : Session :=
  if r.output.isClear then { s with theme := r.theme, log := [] }
  else
    let kind := if r.output.success then LineKind.output else .error
    { s with
      theme := r.theme
      log := s.log ++ [⟨kind, r.output.text, some r.output⟩] }

def submit (s : Session) (line : String) : Except Fault (Option Output) × Session :=
  let line := strip line
  if line.isEmpty then (.ok none, s)
  else
    let s := s.entered line
    match s.service.registry.execute (Invocation.parse line) s.context with
    | .ok r => (.ok (some r.output), s.answered r)
    | .error fault => (.error fault, s)

def clear (s : Session) : Session :=
  { s with log := [] }

def navigate (s : Session) (d : Direction) : Option String × Session :=
  let n := s.history.length
  if n = 0 then (none, s)
  else
    match d, s.browsing with
    | .up, none => (s.history[n - 1]?, { s with browsing := some (n - 1) })
    | .up, some i => (s.history[i - 1]?, { s with browsing := some (i - 1) })
    | .down, none => (none, s)
    | .down, some i =>
      if i + 1 < n then (s.history[i + 1]?, { s with browsing := some (i + 1) })
      else (some "", { s with browsing := none })

/-- Steps in the direction of a name; nothing is asked of the name while there is no history. -/
def navigateNamed (s : Session) (name : String) : Except String (Option String × Session) :=
  if s.history.isEmpty then .ok (none, s)
  else match Direction.named? name with
    | some d => .ok (s.navigate d)
    | none => .error s!"Unknown history direction: {name}"

def complete (s : Session) (typed : String) : Option String :=
  s.service.registry.completion? typed

end Session

end Folio

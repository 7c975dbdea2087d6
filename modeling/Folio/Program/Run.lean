import Folio.Contact.Delivery
import Folio.Portfolio.Source
import Folio.Program.Dialogue
import Folio.Program.Options

namespace Folio.Program

open Folio.Contact Folio.Document Folio.Portfolio Folio.Terminal Folio.Time

structure Surroundings where
  files : Files
  environment : Environment
  transport : Transport
  colored : Bool
  now : Moment

inductive Notice where
  | settings (error : SettingsError)
  | snapshot (reason : Unusable)
  deriving DecidableEq, Repr

def Notice.text : Notice → String
  | settings error => s!"ERROR: {error.message}\n"
  | snapshot reason => s!"Warning: {reason.message}\n"

inductive Break where
  | settings (error : SettingsError)
  | source (error : SourceError)
  | fault (fault : Fault)
  deriving DecidableEq, Repr

def Break.message : Break → String
  | .settings e => e.message
  | .source e => e.message
  | .fault f => f.message

structure Loaded where
  data : Option Snapshot := none
  notice : Option Notice := none

def load (w : Surroundings) (s : Settings) : Except Break Loaded :=
  match Source.ofSettings? s.source with
  | none => .ok {}
  | some source =>
    match source.read w.files w.transport with
    | .ok p => .ok { data := some p }
    | .error (.load (.unusable reason _)) => .ok { notice := some (.snapshot reason) }
    | .error e => .error (.source e)

def endpoint? (s : Settings) : Option String :=
  s.contact.endpoint.filter (!·.isEmpty)

def service (w : Surroundings) (s : Settings) : Service :=
  .standard s ((endpoint? s).map fun url => httpChannel url w.transport)

def session (w : Surroundings) (s : Settings) (data : Option Snapshot) : Session :=
  .start (service w s) data w.now

structure Outcome where
  code : Nat
  written : String := ""
  notice : Option Notice := none
  prompts : List String := []
  requests : List Request := []

def once (s : Session) (line : String) : Except Fault (String × Nat) :=
  match (s.submit line).1 with
  | .error fault => .error fault
  | .ok none => .ok ("", 1)
  | .ok (some o) =>
    .ok (if o.isClear then "" else o.text ++ "\n", if o.success then 0 else 1)

def interact (w : Surroundings) (s : Settings) (session : Session) (script : List Input) :
    Except Fault Transcript :=
  (Dialogue.start session s.terminal.prompt w.colored).run script

def answer (w : Surroundings) (o : Options) (s : Settings) (loaded : Loaded)
    (script : List Input) : Except Fault Outcome :=
  let session := session w s loaded.data
  let fetched := ((Source.ofSettings? s.source).map Source.requests).getD []
  match o.command with
  | some line => (once session line).map fun (written, code) =>
      { code, written, notice := loaded.notice, requests := fetched }
  | none => (interact w s session script).map fun t =>
      { code := 0
        written := greeting ++ t.written
        notice := loaded.notice
        prompts := t.prompts
        requests := fetched ++ ((endpoint? s).map fun url => postRequests url t.sent).getD [] }

def run (w : Surroundings) (o : Options) (script : List Input) : Except Break Outcome :=
  match o.settings w.files w.environment with
  | .error e =>
    if e.isFatal then .error (.settings e) else .ok { code := 1, notice := some (.settings e) }
  | .ok s =>
    match load w s with
    | .error b => .error b
    | .ok loaded => (answer w o s loaded script).mapError .fault

end Folio.Program

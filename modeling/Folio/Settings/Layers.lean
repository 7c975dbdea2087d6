import Folio.Document.Yaml.Node
import Folio.Folder
import Folio.Number.Numeral
import Folio.Settings.Basic
import Folio.Text.Path
/-!
Layers of settings: the defaults, a file over them, and environment variables over both. Records
are merged field by field, any other value replaces what it lies over.
-/

namespace Folio

open Folio.Document Folio.Number Folio.Text

mutual

def overlay (old : Option Value) : Value → Value
  | .record new =>
    match old with
    | some (.record base) => .record (overlayFields base new)
    | _ => .record new
  | new => new

def overlayFields (base : Fields) : List (String × Value) → Fields
  | [] => base
  | (k, v) :: rest => overlayFields (Fields.put k (overlay (base.get? k) v) base) rest

end

abbrev Environment := List (String × String)

structure TextVariable where
  name : String
  group? : Option String
  key : String

def textVariables : List TextVariable := [
  ⟨"TERMINAL_OWNER_NAME", none, "owner_name"⟩,
  ⟨"TERMINAL_LOG_LEVEL", some "logging", "level"⟩,
  ⟨"TERMINAL_LOG_FILE", some "logging", "log_file"⟩,
  ⟨"TERMINAL_DEFAULT_THEME", some "terminal", "default_theme"⟩,
  ⟨"TERMINAL_CONTACT_URL", some "contact", "endpoint_url"⟩,
  ⟨"TERMINAL_RESUME_URL", some "resume", "url"⟩,
  ⟨"TERMINAL_PORTFOLIO_FILE", some "portfolio", "data_file"⟩,
  ⟨"TERMINAL_PORTFOLIO_URL", some "portfolio", "api_url"⟩]

def logLevelVariable : String := "TERMINAL_LOG_LEVEL"

def timeoutVariable : String := "TERMINAL_CONTACT_TIMEOUT"

def defaultTimeout : Float := 10

namespace Environment

def place (group? : Option String) (key : String) (v : Value) (o : Fields) : Fields :=
  match group? with
  | none => o.put key v
  | some name =>
    let inner := match o.get? name with
      | some (.record fields) => fields
      | _ => []
    o.put name (.record (Fields.put key v inner))

def text? (env : Environment) (name : String) : Option String :=
  ((env.lookup name).filter (!·.isEmpty)).map fun s =>
    if name = logLevelVariable then upper s else s

def placeText (env : Environment) (o : Fields) (t : TextVariable) : Fields :=
  match text? env t.name with
  | some s => place t.group? t.key (.text s) o
  | none => o

def timeout? (env : Environment) : Option Float :=
  (env.lookup timeoutVariable).map fun s => (environmentFloat? s).getD defaultTimeout

def overrides (env : Environment) : Fields :=
  let texts := textVariables.foldl (placeText env) []
  match timeout? env with
  | some t => place (some "contact") "timeout" (.float t) texts
  | none => texts

end Environment

inductive SettingsFile where
  | none
  | absent (path : String)
  | blocked (path : String) (why : Obstacle)
  | present (path : String) (content : Except Flaw Value)

def SettingsFile.ofPath (files : Files) (path? : Option String) : SettingsFile :=
  match path?.filter (!·.isEmpty) with
  | .none => .none
  | some path =>
    match files path with
    | .file text => .present path (Yaml.read text)
    | .noFile .folder => .blocked path .folder
    | .noFile .nameTooLong => .blocked path .nameTooLong
    | .noFile _ => .absent path

inductive SettingsError where
  | unsupported (suffix : String)
  | unreadable (path : String)
  | flawed (flaw : Flaw)
  | blocked (path : String) (why : Obstacle)
  | notRecord (path : String)
  | invalid (issues : List Issue)
  deriving DecidableEq, Repr

namespace SettingsError

def message : SettingsError → String
  | unsupported suffix =>
    s!"Unsupported configuration file format: {suffix}. Use YAML (.yaml/.yml)."
  | unreadable path => s!"Invalid YAML in {path}"
  | flawed flaw => flaw.message
  | blocked path why => why.complaint path
  | notRecord path => s!"Configuration file {path} must contain a mapping"
  | invalid _ => "Invalid configuration"

def issues : SettingsError → List Issue
  | invalid issues => issues
  | _ => []

def isFatal : SettingsError → Bool
  | flawed _ => true
  | blocked .. => true
  | _ => false

end SettingsError

/-- The fields of a settings file; no file and an absent one have none, and content that counts
as absent is an empty record. -/
def SettingsFile.fields : SettingsFile → Except SettingsError Fields
  | none => .ok []
  | absent _ => .ok []
  | blocked path why =>
    if why = .folder ∧ !Path.isYaml path then .error (.unsupported (Path.suffix path))
    else .error (.blocked (Path.normalized path) why)
  | present path content =>
    if !Path.isYaml path then .error (.unsupported (Path.suffix path))
    else match content with
      | .error .malformed => .error (.unreadable (Path.normalized path))
      | .error flaw => .error (.flawed flaw)
      | .ok (.record fields) => .ok fields
      | .ok v =>
        if v.isTruthy then .error (.notRecord (Path.normalized path)) else .ok []

namespace Settings

def layered (file : Fields) (env : Environment) : Fields :=
  overlayFields (overlayFields ({} : Settings).fields file) env.overrides

def load (file : SettingsFile) (env : Environment) : Except SettingsError Settings :=
  match file.fields with
  | .error e => .error e
  | .ok fields =>
    match ofFields (layered fields env) with
    | .ok s => .ok s
    | .failed issues => .error (.invalid issues)

def ofEnvironment (env : Environment) : Decoded Settings :=
  ofFields env.overrides

end Settings

end Folio

import Folio.Document.Yaml.Node
import Folio.Folder
import Folio.Http
import Folio.Portfolio.Snapshot
import Folio.Settings.Basic

namespace Folio.Portfolio

open Folio.Document Folio.Http Folio.Text

inductive Source where
  | file (path : String)
  | address (url : String)
  deriving DecidableEq, Repr

/-- A file goes before an address; empty texts name neither. -/
def Source.ofSettings? (s : SourceSettings) : Option Source :=
  match s.file.filter (!·.isEmpty) with
  | some path => some (.file path)
  | none => (s.url.filter (!·.isEmpty)).map .address

inductive SourceError where
  | load (error : LoadError)
  | noPath
  | badUrl (flaw : UrlFlaw)
  | flawed (flaw : Flaw)
  deriving DecidableEq, Repr

def SourceError.message : SourceError → String
  | load (.unusable reason _) => reason.message
  | load (.rows fault) => fault.message
  | noPath => Obstacle.noPath.complaint ""
  | badUrl flaw => flaw.message
  | flawed flaw => flaw.message

def unusable (reason : Unusable) (source : String) : SourceError :=
  .load (.unusable reason (some source))

def parse (path text : String) : Except Flaw Value :=
  if Path.isYaml path then Yaml.read text else Json.read text

namespace Snapshot

def ofFile (path : String) (entry : Entry) : Except SourceError Snapshot :=
  let source := Path.normalized path
  match entry with
  | .noFile .noPath => .error .noPath
  | .noFile why => .error (unusable (.unreadable source (why.complaint source)) source)
  | .file text =>
    match parse path text with
    | .error .malformed => .error (unusable (.unparsable source) source)
    | .error flaw => .error (.flawed flaw)
    | .ok v => (ofDocument v (some source)).mapError .load

def ofReply (url : String) : Reply → Except SourceError Snapshot
  | .unreachable => .error (unusable (.unfetched url) url)
  | .answered r =>
    if r.isSuccess then
      match r.body with
      | .ok v => (ofDocument v (some url)).mapError .load
      | .error (.tooDeep isRecord) => .error (.flawed (.tooDeep isRecord))
      | .error _ => .error (unusable (.unfetched url) url)
    else .error (unusable (.refused r.status) url)

end Snapshot

namespace Source

def requests : Source → List Request
  | file _ => []
  | address url => (Url.read url).toOption.toList.map Request.get

def read (files : Files) (transport : Transport) : Source → Except SourceError Snapshot
  | file path => Snapshot.ofFile path (files path)
  | address url =>
    match Url.read url with
    | .error flaw => .error (.badUrl flaw)
    | .ok u => Snapshot.ofReply url (transport.reply (.get u))

end Source

end Folio.Portfolio

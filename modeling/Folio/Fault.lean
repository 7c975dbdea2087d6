import Folio.Document.Decode
import Folio.Document.Flaw
import Folio.Http.Url
import Folio.Time.Moment

namespace Folio

open Folio.Document Folio.Http Folio.Time

inductive Fault where
  | zones (clash : ZoneClash)
  | failure (message : String)
  | invalid (issues : List Issue)
  | notAnOutput (command kind : String)
  | badUrl (flaw : UrlFlaw)
  | badBody (flaw : Flaw)
  | interrupted
  deriving DecidableEq, Repr

def Fault.message : Fault → String
  | zones clash => clash.message
  | failure message => message
  | invalid issues => s!"{issues.length} validation errors"
  | notAnOutput command kind => s!"Command '{command}' returned {kind}"
  | badUrl flaw => flaw.message
  | badBody flaw => flaw.message
  | interrupted => ""

end Folio

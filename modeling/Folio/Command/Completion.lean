import Folio.Command.Registry
import Folio.Command.Suggestion
import Folio.Text.Blank
import Folio.Text.Search

namespace Folio.Command

open Folio.Text

namespace Registry

def completions (r : Registry) (typed : String) : List String :=
  let start := lower (strip typed)
  if start.isEmpty then [] else r.visibleNames.filter (startsWith · start)

def completion? (r : Registry) (typed : String) : Option String :=
  match r.completions typed with
  | [name] => some name
  | _ => none

def isHidden (r : Registry) (name : String) : Bool :=
  r.hiddenNames.contains (lower name)

def suggestions (r : Registry) (name : String) : List String :=
  similarTo name r.visibleNames

end Registry

end Folio.Command

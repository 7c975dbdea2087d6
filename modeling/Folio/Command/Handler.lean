import Folio.Command.Invocation
import Folio.Fault
import Folio.Output
import Folio.Portfolio.Snapshot
import Folio.Theme

namespace Folio.Command

open Folio.Portfolio Folio.Time

structure CommandInfo where
  name : String
  description : String := ""
  usage : String := name
  aliases : List String := []
  hidden : Bool := false
  examples : List String := []
  deriving DecidableEq, Repr

structure Context where
  theme : Theme
  history : List String
  data : Option Snapshot
  now : Moment
  visible : List CommandInfo

structure Result where
  output : Output
  theme : Theme

structure Handler where
  info : CommandInfo
  run : Invocation → Context → Except Fault Result

end Folio.Command

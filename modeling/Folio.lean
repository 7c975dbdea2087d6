import Folio.Log.Journal
import Folio.Main
import Folio.Program.Run
import Folio.Proofs.Command.EditDistance
import Folio.Proofs.Command.Hidden
import Folio.Proofs.Command.Key
import Folio.Proofs.Command.Suggestion
import Folio.Proofs.Contact.Address
import Folio.Proofs.Contact.Outcome
import Folio.Proofs.Contact.Submission
import Folio.Proofs.Log.Record
import Folio.Proofs.Log.Words
import Folio.Proofs.Portfolio.Order
import Folio.Proofs.Portfolio.Origin
import Folio.Proofs.Portfolio.Spelling
import Folio.Proofs.Program.Alone
import Folio.Proofs.Program.Load
import Folio.Proofs.Program.Options
import Folio.Proofs.Session.Answers
import Folio.Proofs.Session.Browsing
import Folio.Proofs.Session.Hollow
import Folio.Proofs.Settings.Defaults
import Folio.Proofs.Settings.Reload
import Folio.Proofs.Settings.Timeout
import Folio.Proofs.Terminal.Completion
import Folio.Proofs.Terminal.Counted
import Folio.Proofs.Terminal.Worked
import Folio.Proofs.Terminal.Written
import Folio.Proofs.Time.Phrase
import Folio.Report
import Folio.Text.Summary

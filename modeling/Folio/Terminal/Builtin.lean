import Folio.Command.Service
import Folio.Portfolio.Skills
import Folio.Portfolio.Stats
import Folio.Portfolio.Timeline
import Folio.Terminal.Pages
import Folio.Terminal.Scene

namespace Folio.Terminal

open Folio.Command Folio.Contact Folio.Portfolio Folio.Text Folio.Time

inductive Builtin where
  | help
  | about
  | skills
  | experience
  | projects
  | certifications
  | contact
  | resume
  | clear
  | history
  | stats
  | theme
  | social (network : Network)
  | hello
  | bye
  | egg (scene : Scene)
  deriving DecidableEq, Repr

namespace Builtin

def all : List Builtin :=
  [help, about, skills, experience, projects, certifications, contact, resume, clear, history,
    stats, theme, social .github, social .linkedin, social .instagram, hello, bye, egg .tatakae,
    egg .gear5, egg .bankai, egg .makiZenin]

def info (s : Settings) : Builtin → CommandInfo
  | help => {
      name := "help"
      aliases := ["?", "h"]
      description := "Display list of available commands" }
  | about => { name := "about", description := "Display biographical information" }
  | skills => {
      name := "skills"
      usage := "skills [--frontend|--backend|--tools]"
      description := "Display skills, optionally filtered by category"
      examples := ["skills --frontend       Show only frontend skills"] }
  | experience => {
      name := "experience"
      aliases := ["exp", "work"]
      description := "Display work history in chronological order" }
  | projects => {
      name := "projects"
      usage := "projects [--featured]"
      description := "Display projects, optionally show only featured"
      examples := ["projects --featured     Show only featured projects"] }
  | certifications => {
      name := "certifications"
      aliases := ["certs", "certificates"]
      description := "Display certifications and achievements" }
  | contact => { name := "contact", description := "Display contact information and form" }
  | resume => { name := "resume", aliases := ["cv"], description := "Download resume as PDF" }
  | clear => { name := "clear", aliases := ["cls"], description := "Clear terminal output" }
  | history => { name := "history", description := "Show command history" }
  | stats => {
      name := "stats"
      aliases := ["statistics"]
      description := "Display portfolio statistics" }
  | theme => {
      name := "theme"
      aliases := ["color", "colors"]
      usage := themeUsage
      description := s!"Change terminal theme ({listed Theme.names})"
      examples := ["theme cyberpunk         Switch to cyberpunk theme"] }
  | social n => {
      name := n.name
      aliases := n.aliases
      description := s!"Open {s.ownerName}'s {n.label} profile" }
  | hello => { name := "hello", description := "Say hello!" }
  | bye => { name := "bye", description := "Say goodbye!" }
  | egg scene => { name := scene.name, description := "???", hidden := true }

def name (b : Builtin) : String :=
  (b.info {}).name

def named? (s : String) : Option Builtin :=
  all.find? (·.name = s)

def listing : Except ZoneClash String → Except Fault Output
  | .ok text => .ok (.plain text)
  | .error clash => .error (.zones clash)

def runTheme (i : Invocation) (current : Theme) : Result :=
  match i.args with
  | [] => ⟨themeList current, current⟩
  | arg :: _ =>
    match Theme.named? (lower arg) with
    | some chosen => ⟨themeChanged chosen, chosen⟩
    | none => ⟨themeUnknown (lower arg), current⟩

def runStats (context : Context) : Except Fault Output :=
  listing ((statsOf context.data context.now).map Stats.page)

def output (s : Settings) (channel : Option Channel) (i : Invocation) (context : Context) :
    Builtin → Except Fault Output
  | help => .ok (.plain (helpPage context.visible))
  | about => .ok (.plain (aboutPage s.ownerName context.data))
  | skills => .ok (.plain (skillListing i.flags ((context.data.map (·.skills)).getD [])))
  | experience => listing (workListing context.now ((context.data.map (·.experiences)).getD []))
  | projects =>
    .ok (.plain (projectListing i.flags context.now ((context.data.map (·.projects)).getD [])))
  | certifications =>
    listing (certificationListing context.now ((context.data.map (·.certifications)).getD []))
  | contact => .ok (contactOutput channel context.data)
  | resume => .ok (resumeOutput s.resume)
  | clear => .ok .clear
  | history => .ok (.plain (historyPage context.history))
  | stats => runStats context
  | theme => .ok (runTheme i context.theme).output
  | social n => .ok (n.output s.socials context.data)
  | hello => .ok Terminal.hello
  | bye => .ok Terminal.bye
  | egg scene => .ok scene.output

def run (s : Settings) (channel : Option Channel) (b : Builtin) (i : Invocation)
    (context : Context) : Except Fault Result :=
  match b with
  | theme => .ok (runTheme i context.theme)
  | b => (b.output s channel i context).map (⟨·, context.theme⟩)

def handler (s : Settings) (channel : Option Channel) (b : Builtin) : Handler :=
  ⟨b.info s, b.run s channel⟩

end Builtin

def catalogue : List String :=
  Builtin.all.map fun b => lower b.name

def declare (catalogue : List String) (name : String) : Except RegistrationError (List String) :=
  let key := lower name
  if catalogue.contains key then .error (.declared name) else .ok (catalogue ++ [key])

def registerAll (s : Settings) (channel : Option Channel) (r : Registry) (bs : List Builtin) :
    Except RegistrationError Registry :=
  bs.foldlM (fun r b => r.register (b.handler s channel)) r

structure Service where
  settings : Settings := {}
  channel : Option Channel := none
  registry : Registry := {}

def Service.standard (s : Settings) (channel : Option Channel) : Service :=
  match registerAll s channel {} Builtin.all with
  | .ok r => ⟨s, channel, r⟩
  | .error _ => ⟨s, channel, {}⟩

end Folio.Terminal

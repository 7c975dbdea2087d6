import Folio.Command.Handler
import Folio.Settings.Basic
import Folio.Text.Layout

namespace Folio.Terminal

open Folio.Command Folio.Contact Folio.Document Folio.Portfolio Folio.Text

def usageWidth : Nat := 24

def tips : List String := [
  "Use Tab for command autocomplete",
  "Use Up/Down arrows to navigate command history",
  "Use flags like --frontend to filter results"]

def helpEntry (c : CommandInfo) : List String :=
  let label := replaceFirst c.usage c.name (listed (c.name :: c.aliases))
  let margin := repeated usageWidth ' '
  if label.length < usageWidth then [s!"  {padRight usageWidth label}{c.description}"]
  else [s!"  {label}", s!"  {margin}{c.description}"]

def helpPage (visible : List CommandInfo) : String :=
  let examples := visible.flatMap (·.examples)
  let shown := if examples.isEmpty then []
    else ["", "Examples:"] ++ examples.map fun e => s!"  {e}"
  lines (["", "Available Commands:"] ++ visible.flatMap helpEntry ++ ["", "Tips:"] ++
    tips.map (fun t => s!"  - {t}") ++ shown) ++ "\n"

def historyRow (number : Nat) (entry : String) : String :=
  s!"{padLeft 4 (toString number)}  {entry}"

def historyRows (first : Nat) : List String → List String
  | [] => []
  | entry :: rest => historyRow first entry :: historyRows (first + 1) rest

def historyPage (history : List String) : String :=
  if history.isEmpty then "No command history yet. Start typing commands!"
  else
    lines (["", "Command History", repeated 50 '=', ""] ++ historyRows 1 history ++
      ["", repeated 50 '=', s!"Total Commands: {history.length}", "",
        "Tip: Use Up/Down arrows to navigate through history"]) ++ "\n"

def defaultBio : String := lines [
  "I'm a passionate full-stack developer with a love for building elegant,",
  "performant, and user-friendly applications. My journey in software",
  "development has been driven by curiosity and a desire to solve real-world",
  "problems through code.",
  "",
  "🎯 What I Do:",
  "   • Design and develop modern web applications",
  "   • Build scalable backend systems and APIs",
  "   • Create intuitive user interfaces",
  "   • Optimize performance and user experience",
  "",
  "💡 Philosophy:",
  "   I believe in writing clean, maintainable code and I'm always learning",
  "   new technologies. Collaboration and continuous improvement are at the",
  "   core of my work ethic.",
  "",
  "🚀 Current Focus:",
  "   • Exploring cutting-edge web technologies",
  "   • Contributing to open-source projects",
  "   • Building tools that make developers' lives easier"]

def aboutFooter : String := lines [
  "📫 Let's Connect:",
  "   Type 'contact' to get in touch or 'resume' to download my CV.",
  "   Type 'skills' to see my technical expertise.",
  "   Type 'experience' to view my work history.",
  "   Type 'projects' to explore what I've built."]

def banner (title : String) : String := lines [
  "╔" ++ repeated 59 '═' ++ "╗",
  "║" ++ centered 59 title ++ "║",
  "╚" ++ repeated 59 '═' ++ "╝"]

def aboutPage (owner : String) (data : Option Snapshot) : String :=
  let own := strip ((data.map (·.about)).getD "")
  let body := if own.isEmpty then defaultBio else own
  "\n" ++ joined "\n\n" [banner s!"ABOUT {upper owner}", s!"👋 Hello! I'm {owner}", body,
    aboutFooter] ++ "\n"

def contactProfiles : List (String × String) :=
  [("github", "GitHub"), ("linkedin", "LinkedIn"), ("twitter", "Twitter")]

def contactDetails (info : ContactInfo) : List String :=
  (if info.email.isEmpty then [] else [s!"  Email: {info.email}"]) ++
    contactProfiles.filterMap fun (network, label) =>
      (info.profile? network).map fun url => s!"  {label}: {url}"

def contactOutput (channel : Option Channel) (data : Option Snapshot) : Output :=
  let info := data.map (·.contactInfo)
  let text := lines (["Contact Information"] ++ (info.map contactDetails).getD [] ++
    ["", "Send a Message", "  Fill in your name, email and message to get in touch."])
  let fields : Value := .list (Field.all.map fun f => .text f.key)
  let payload := ("fields", fields) :: match info with
    | some i => [("contact_info", i.toDocument)]
    | none => []
  .element "contact_form" text payload (some ⟨channel, info⟩)

def resumeOutput (s : ResumeSettings) : Output :=
  .element "download"
    (lines ["📄 Generating resume PDF...", "Your resume will download shortly.",
      s!"If the download doesn't start automatically, get it from {s.url}"])
    [("url", .text s.url), ("filename", .text s.filename)]

inductive Network where
  | github
  | linkedin
  | instagram
  deriving DecidableEq, Repr

namespace Network

def name : Network → String
  | github => "github"
  | linkedin => "linkedin"
  | instagram => "instagram"

def aliases : Network → List String
  | instagram => ["insta"]
  | _ => []

def label : Network → String
  | github => "GitHub"
  | linkedin => "LinkedIn"
  | instagram => "Instagram"

def icon : Network → String
  | github => "🐙"
  | linkedin => "💼"
  | instagram => "📸"

def tagline : Network → String
  | github => "Check out my repositories and contributions!"
  | linkedin => "Let's connect professionally!"
  | instagram => "Follow for updates and photos!"

def configured (s : SocialSettings) : Network → String
  | github => s.github
  | linkedin => s.linkedin
  | instagram => s.instagram

def url (n : Network) (s : SocialSettings) (data : Option Snapshot) : String :=
  (data.bind (·.contactInfo.profile? n.name)).getD (n.configured s)

def output (n : Network) (s : SocialSettings) (data : Option Snapshot) : Output :=
  let url := n.url s data
  let shown := afterFirst url "://"
  let edge := repeated (shown.length + 6 : Nat) '═'
  .element "open_link"
    (lines [s!"{n.icon} Opening {n.label} profile...", "", s!"   ╔{edge}╗", s!"   ║   {shown}   ║",
      s!"   ╚{edge}╝", "", s!"   {n.tagline}"])
    [("network", .text n.name), ("url", .text url)]

end Network

def themeUsage : String := "theme [name]"

def available : Value :=
  .list (Theme.names.map .text)

def themeList (current : Theme) : Output :=
  let row := fun (t : Theme) => s!"  • {t.name}" ++ if t = current then " (current)" else ""
  .element "theme_list"
    (lines ([s!"Current theme: {current.name}", "Available themes:"] ++ Theme.all.map row ++
      ["", s!"Usage: {themeUsage}"]))
    [("current", .text current.name), ("available", available)]

def themeUnknown (requested : String) : Output :=
  .failure
    (.element "theme_error" [("requested", .text requested), ("available", available)]
      s!"Theme \"{requested}\" not found.\nAvailable themes: {listed Theme.names}" none)
    s!"Theme \"{requested}\" not found"

def themeChanged (theme : Theme) : Output :=
  .plain s!"✓ Theme changed to \"{theme.name}\"\nEnjoy your new color scheme!"

def hello : Output :=
  .plain "👋 heyyyy! How can i help\nType 'help' to see available commands!"

def bye : Output :=
  .plain "👋 byeeee\nThanks for visiting! Come back soon! ✨"

end Folio.Terminal

import Folio.Document.Decode
import Folio.Text.Layout
import Folio.Text.Search
import Folio.Theme

namespace Folio

open Folio.Document Folio.Text

inductive LogLevel where
  | debug
  | info
  | warning
  | error
  | critical
  deriving DecidableEq, Repr

namespace LogLevel

def all : List LogLevel := [debug, info, warning, error, critical]

def name : LogLevel → String
  | debug => "DEBUG"
  | info => "INFO"
  | warning => "WARNING"
  | error => "ERROR"
  | critical => "CRITICAL"

def named? (s : String) : Option LogLevel :=
  all.find? (·.name = s)

def severity : LogLevel → Nat
  | debug => 10
  | info => 20
  | warning => 30
  | error => 40
  | critical => 50

end LogLevel

structure LoggingSettings where
  level : LogLevel := .warning
  file : Option String := none
  deriving DecidableEq, Repr

structure TerminalSettings where
  theme : Theme := .standard
  prompt : String := "❯ "
  deriving DecidableEq, Repr

structure ContactSettings where
  endpoint : Option String := some "http://localhost:3000/api/contact"
  timeout : Float := 10
  deriving DecidableEq, Repr

structure ResumeSettings where
  url : String := "/api/resume"
  filename : String := "Hassan_Kazmi_Resume.pdf"
  deriving DecidableEq, Repr

structure SourceSettings where
  file : Option String := none
  url : Option String := none
  timeout : Float := 10
  deriving DecidableEq, Repr

structure SocialSettings where
  github : String := "https://github.com/hassankazmi"
  linkedin : String := "https://linkedin.com/in/hassankazmi"
  instagram : String := "https://instagram.com/kazmi.gram"
  deriving DecidableEq, Repr

structure Settings where
  ownerName : String := "Hassan"
  logging : LoggingSettings := {}
  terminal : TerminalSettings := {}
  contact : ContactSettings := {}
  resume : ResumeSettings := {}
  source : SourceSettings := {}
  socials : SocialSettings := {}
  deriving DecidableEq, Repr

def themeName : Decoder Theme := fun v =>
  (text v).andThen fun s =>
    match Theme.named? s with
    | some theme => .ok theme
    | none => .complain (.refused
        s!"Unknown theme '{s}'. Available themes: {listed Theme.names}")

def isWebUrl (url : String) : Bool :=
  startsWith url "http://" || startsWith url "https://"

def webUrl : Decoder (Option String) := fun v =>
  (nullable text v).andThen fun url? =>
    if url?.all isWebUrl then .ok url?
    else .complain (.refused "URL must start with http:// or https://")

namespace LoggingSettings

def decode : Decoder LoggingSettings := record fun o =>
  LoggingSettings.mk
    <$> optional o (.plain "level") .warning (oneOf .notMember LogLevel.named?)
    <*> optional o (.plain "log_file") none (nullable text)

def toDocument (s : LoggingSettings) : Value :=
  .record [("level", .text s.level.name), ("log_file", .ofOption .text s.file)]

end LoggingSettings

namespace TerminalSettings

def decode : Decoder TerminalSettings := record fun o =>
  TerminalSettings.mk
    <$> optional o (.plain "default_theme") .standard themeName
    <*> optional o (.plain "prompt") "❯ " text

def toDocument (s : TerminalSettings) : Value :=
  .record [("default_theme", .text s.theme.name), ("prompt", .text s.prompt)]

end TerminalSettings

namespace ContactSettings

def decode : Decoder ContactSettings := record fun o =>
  ContactSettings.mk
    <$> optional o (.plain "endpoint_url") (some "http://localhost:3000/api/contact") webUrl
    <*> optional o (.plain "timeout") 10 positive

def toDocument (s : ContactSettings) : Value :=
  .record [("endpoint_url", .ofOption .text s.endpoint), ("timeout", .float s.timeout)]

end ContactSettings

namespace ResumeSettings

def decode : Decoder ResumeSettings := record fun o =>
  ResumeSettings.mk
    <$> optional o (.plain "url") "/api/resume" text
    <*> optional o (.plain "filename") "Hassan_Kazmi_Resume.pdf" text

def toDocument (s : ResumeSettings) : Value :=
  .record [("url", .text s.url), ("filename", .text s.filename)]

end ResumeSettings

namespace SourceSettings

def decode : Decoder SourceSettings := record fun o =>
  SourceSettings.mk
    <$> optional o (.plain "data_file") none (nullable text)
    <*> optional o (.plain "api_url") none webUrl
    <*> optional o (.plain "timeout") 10 positive

def toDocument (s : SourceSettings) : Value :=
  .record [("data_file", .ofOption .text s.file), ("api_url", .ofOption .text s.url),
    ("timeout", .float s.timeout)]

end SourceSettings

namespace SocialSettings

def decode : Decoder SocialSettings := record fun o =>
  SocialSettings.mk
    <$> optional o (.plain "github") "https://github.com/hassankazmi" text
    <*> optional o (.plain "linkedin") "https://linkedin.com/in/hassankazmi" text
    <*> optional o (.plain "instagram") "https://instagram.com/kazmi.gram" text

def toDocument (s : SocialSettings) : Value :=
  .record [("github", .text s.github), ("linkedin", .text s.linkedin),
    ("instagram", .text s.instagram)]

end SocialSettings

namespace Settings

def ofFields (o : Fields) : Decoded Settings :=
  Settings.mk
    <$> optional o (.plain "owner_name") "Hassan" text
    <*> optional o (.plain "logging") {} LoggingSettings.decode
    <*> optional o (.plain "terminal") {} TerminalSettings.decode
    <*> optional o (.plain "contact") {} ContactSettings.decode
    <*> optional o (.plain "resume") {} ResumeSettings.decode
    <*> optional o (.plain "portfolio") {} SourceSettings.decode
    <*> optional o (.plain "socials") {} SocialSettings.decode

def decode : Decoder Settings := record ofFields

def fields (s : Settings) : Fields :=
  [("owner_name", .text s.ownerName), ("logging", s.logging.toDocument),
    ("terminal", s.terminal.toDocument), ("contact", s.contact.toDocument),
    ("resume", s.resume.toDocument), ("portfolio", s.source.toDocument),
    ("socials", s.socials.toDocument)]

def toDocument (s : Settings) : Value :=
  .record s.fields

end Settings

end Folio

import Folio.Document.Decode

namespace Folio.Portfolio

open Folio.Document

inductive SectionKind where
  | skill
  | experience
  | project
  | certification
  | achievement
  deriving DecidableEq, Repr

namespace SectionKind

def all : List SectionKind := [skill, experience, project, certification, achievement]

def name : SectionKind → String
  | skill => "skill"
  | experience => "experience"
  | project => "project"
  | certification => "certification"
  | achievement => "achievement"

def named? (s : String) : Option SectionKind :=
  all.find? (·.name = s)

def modelName : SectionKind → String
  | skill => "SkillMetadata"
  | experience => "ExperienceMetadata"
  | project => "ProjectMetadata"
  | certification => "CertificationMetadata"
  | achievement => "AchievementMetadata"

end SectionKind

inductive SkillCategory where
  | frontend
  | backend
  | tools
  | other
  deriving DecidableEq, Repr

namespace SkillCategory

def all : List SkillCategory := [frontend, backend, tools, other]

def name : SkillCategory → String
  | frontend => "frontend"
  | backend => "backend"
  | tools => "tools"
  | other => "other"

def title : SkillCategory → String
  | frontend => "Frontend"
  | backend => "Backend"
  | tools => "Tools"
  | other => "Other"

def named? (s : String) : Option SkillCategory :=
  all.find? (·.name = s)

end SkillCategory

structure SkillMetadata where
  category : SkillCategory := .other
  proficiency : Int := 0
  icon : Option String := none
  deriving DecidableEq, Repr

structure ExperienceMetadata where
  company : String := ""
  location : Option String := none
  technologies : List String := []
  deriving DecidableEq, Repr

structure ProjectMetadata where
  techStack : List String := []
  liveUrl : Option String := none
  githubUrl : Option String := none
  tags : List String := []
  deriving DecidableEq, Repr

structure CertificationMetadata where
  issuer : String := ""
  credentialId : Option String := none
  credentialUrl : Option String := none
  deriving DecidableEq, Repr

structure AchievementMetadata where
  icon : String := ""
  category : String := ""
  deriving DecidableEq, Repr

inductive Metadata where
  | skill (m : SkillMetadata)
  | experience (m : ExperienceMetadata)
  | project (m : ProjectMetadata)
  | certification (m : CertificationMetadata)
  | achievement (m : AchievementMetadata)
  deriving DecidableEq, Repr

def texts (ss : List String) : Value :=
  .list (ss.map .text)

def ofText? : Option String → Value :=
  .ofOption .text

namespace Spelling

def techStack : Spelling := ⟨"techStack", "tech_stack"⟩
def liveUrl : Spelling := ⟨"liveUrl", "live_url"⟩
def githubUrl : Spelling := ⟨"githubUrl", "github_url"⟩
def credentialId : Spelling := ⟨"credentialId", "credential_id"⟩
def credentialUrl : Spelling := ⟨"credentialUrl", "credential_url"⟩

end Spelling

namespace SkillMetadata

def ofFields (o : Fields) : Decoded SkillMetadata :=
  SkillMetadata.mk
    <$> optional o (.plain "category") .other (oneOf .notLiteral SkillCategory.named?)
    <*> optional o (.plain "proficiency") 0 (integerBetween 0 100)
    <*> optional o (.plain "icon") none (nullable text)

def fields (m : SkillMetadata) : Fields :=
  [("category", .text m.category.name), ("proficiency", .int m.proficiency),
    ("icon", ofText? m.icon)]

end SkillMetadata

namespace ExperienceMetadata

def ofFields (o : Fields) : Decoded ExperienceMetadata :=
  ExperienceMetadata.mk
    <$> optional o (.plain "company") "" text
    <*> optional o (.plain "location") none (nullable text)
    <*> optional o (.plain "technologies") [] (list text)

def fields (m : ExperienceMetadata) : Fields :=
  [("company", .text m.company), ("location", ofText? m.location),
    ("technologies", texts m.technologies)]

end ExperienceMetadata

namespace ProjectMetadata

def ofFields (o : Fields) : Decoded ProjectMetadata :=
  ProjectMetadata.mk
    <$> optional o Spelling.techStack [] (list text)
    <*> optional o Spelling.liveUrl none (nullable text)
    <*> optional o Spelling.githubUrl none (nullable text)
    <*> optional o (.plain "tags") [] (list text)

def fields (style : KeyStyle) (m : ProjectMetadata) : Fields :=
  [(Spelling.techStack.key style, texts m.techStack),
    (Spelling.liveUrl.key style, ofText? m.liveUrl),
    (Spelling.githubUrl.key style, ofText? m.githubUrl), ("tags", texts m.tags)]

end ProjectMetadata

namespace CertificationMetadata

def ofFields (o : Fields) : Decoded CertificationMetadata :=
  CertificationMetadata.mk
    <$> optional o (.plain "issuer") "" text
    <*> optional o Spelling.credentialId none (nullable text)
    <*> optional o Spelling.credentialUrl none (nullable text)

def fields (style : KeyStyle) (m : CertificationMetadata) : Fields :=
  [("issuer", .text m.issuer), (Spelling.credentialId.key style, ofText? m.credentialId),
    (Spelling.credentialUrl.key style, ofText? m.credentialUrl)]

end CertificationMetadata

namespace AchievementMetadata

def ofFields (o : Fields) : Decoded AchievementMetadata :=
  AchievementMetadata.mk
    <$> optional o (.plain "icon") "" text
    <*> optional o (.plain "category") "" text

def fields (m : AchievementMetadata) : Fields :=
  [("icon", .text m.icon), ("category", .text m.category)]

end AchievementMetadata

namespace Metadata

def kind : Metadata → SectionKind
  | skill _ => .skill
  | experience _ => .experience
  | project _ => .project
  | certification _ => .certification
  | achievement _ => .achievement

def ofFields (kind : SectionKind) (o : Fields) : Decoded Metadata :=
  match kind with
  | .skill => skill <$> SkillMetadata.ofFields o
  | .experience => experience <$> ExperienceMetadata.ofFields o
  | .project => project <$> ProjectMetadata.ofFields o
  | .certification => certification <$> CertificationMetadata.ofFields o
  | .achievement => achievement <$> AchievementMetadata.ofFields o

def decode (kind : SectionKind) : Decoder Metadata :=
  record (ofFields kind)

/-- Metadata of any kind that accepts the value; when none does, every kind's failures. -/
def decodeAny (v : Value) : List SectionKind → Decoded Metadata
  | [] => .failed []
  | kind :: kinds =>
    match decode kind v with
    | .ok m => .ok m
    | .failed here =>
      match decodeAny v kinds with
      | .ok m => .ok m
      | .failed there =>
        .failed (here.map (fun i => { i with path := .key kind.modelName :: i.path }) ++ there)

def fields (style : KeyStyle) : Metadata → Fields
  | skill m => m.fields
  | experience m => m.fields
  | project m => m.fields style
  | certification m => m.fields style
  | achievement m => m.fields

end Metadata

end Folio.Portfolio

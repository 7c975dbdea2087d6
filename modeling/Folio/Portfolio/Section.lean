import Folio.Portfolio.Metadata

namespace Folio.Portfolio

open Folio.Document Folio.Time

structure Section where
  id : String
  kind : SectionKind
  title : String
  description : String
  metadata : Metadata
  imageUrl : Option String
  startDate : Option Moment
  endDate : Option Moment
  displayOrder : Int
  isFeatured : Bool
  isVisible : Bool
  createdAt : Option Moment
  updatedAt : Option Moment
  deriving DecidableEq, Repr

namespace Spelling

def imageUrl : Spelling := ⟨"imageUrl", "image_url"⟩
def startDate : Spelling := ⟨"startDate", "start_date"⟩
def endDate : Spelling := ⟨"endDate", "end_date"⟩
def displayOrder : Spelling := ⟨"displayOrder", "display_order"⟩
def isFeatured : Spelling := ⟨"isFeatured", "is_featured"⟩
def isVisible : Spelling := ⟨"isVisible", "is_visible"⟩
def createdAt : Spelling := ⟨"createdAt", "created_at"⟩
def updatedAt : Spelling := ⟨"updatedAt", "updated_at"⟩

end Spelling

def utcMoment : Decoder (Option Moment) := fun v =>
  (nullable moment v).map (·.map Moment.orUtc)

namespace Section

def around (o : Fields) (metadata : Decoded Metadata) : Decoded Section :=
  Section.mk
    <$> required o (.plain "id") text
    <*> required o (.plain "type") (oneOf .notMember SectionKind.named?)
    <*> required o (.plain "title") text
    <*> optional o (.plain "description") "" text
    <*> metadata
    <*> optional o Spelling.imageUrl none (nullable text)
    <*> optional o Spelling.startDate none utcMoment
    <*> optional o Spelling.endDate none utcMoment
    <*> optional o Spelling.displayOrder 0 integer
    <*> optional o Spelling.isFeatured false boolean
    <*> optional o Spelling.isVisible true boolean
    <*> optional o Spelling.createdAt none utcMoment
    <*> optional o Spelling.updatedAt none utcMoment

def kindOf? (o : Fields) : Option SectionKind :=
  match o.get? "type" with
  | some (.text s) => SectionKind.named? s
  | _ => none

/-- Metadata of a known kind is decoded first, and when it fails nothing else is reported. -/
def ofFields (o : Fields) : Decoded Section :=
  let loose := required o (.plain "metadata") (Metadata.decodeAny · SectionKind.all)
  match kindOf? o with
  | none => around o loose
  | some kind =>
    match (o.get? "metadata").getD .null with
    | .null => (Metadata.ofFields kind []).andThen fun m => around o (.ok m)
    | .record fields => (Metadata.ofFields kind fields).andThen fun m => around o (.ok m)
    | _ => around o loose

def decode : Decoder Section := record ofFields

def ofMoment? : Option Moment → Value :=
  .ofOption fun t => .text t.toIso

def toDocument (style : KeyStyle) (s : Section) : Value :=
  .record [
    ("id", .text s.id),
    ("type", .text s.kind.name),
    ("title", .text s.title),
    ("description", .text s.description),
    ("metadata", .record (s.metadata.fields style)),
    (Spelling.imageUrl.key style, ofText? s.imageUrl),
    (Spelling.startDate.key style, ofMoment? s.startDate),
    (Spelling.endDate.key style, ofMoment? s.endDate),
    (Spelling.displayOrder.key style, .int s.displayOrder),
    (Spelling.isFeatured.key style, .bool s.isFeatured),
    (Spelling.isVisible.key style, .bool s.isVisible),
    (Spelling.createdAt.key style, ofMoment? s.createdAt),
    (Spelling.updatedAt.key style, ofMoment? s.updatedAt)]

def skill? (s : Section) : Option SkillMetadata :=
  match s.metadata with
  | .skill m => some m
  | _ => none

def asSkill (s : Section) : SkillMetadata :=
  s.skill?.getD {}

def asExperience (s : Section) : ExperienceMetadata :=
  match s.metadata with
  | .experience m => m
  | _ => {}

def asProject (s : Section) : ProjectMetadata :=
  match s.metadata with
  | .project m => m
  | _ => {}

def asCertification (s : Section) : CertificationMetadata :=
  match s.metadata with
  | .certification m => m
  | _ => {}

end Section

end Folio.Portfolio

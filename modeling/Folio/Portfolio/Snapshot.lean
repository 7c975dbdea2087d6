import Folio.Contact.Form
import Folio.Portfolio.Section
/-!
Snapshots: everything a portfolio shows. A snapshot is read from a document of its own shape or
from the rows of a store.
-/

namespace Folio.Portfolio

open Folio.Contact Folio.Document

structure Snapshot where
  about : String := ""
  skills : List Section := []
  experiences : List Section := []
  projects : List Section := []
  certifications : List Section := []
  achievements : List Section := []
  contactInfo : ContactInfo := {}
  deriving DecidableEq, Repr

inductive RowFault where
  | notIterable (kind : String)
  | noFields (kind : String)
  | unhashable (kind : String)
  deriving DecidableEq, Repr

def RowFault.message : RowFault → String
  | notIterable kind => s!"'{kind}' object is not iterable"
  | noFields kind => s!"'{kind}' object has no attribute 'get'"
  | unhashable kind => s!"unhashable type: '{kind}'"

inductive Unusable where
  | notRecord
  | invalid (issues : List Issue)
  | unreadable (path complaint : String)
  | unparsable (path : String)
  | refused (status : Nat)
  | unfetched (url : String)
  deriving DecidableEq, Repr

def Unusable.message : Unusable → String
  | notRecord => "Portfolio document must be a mapping"
  | invalid issues => s!"Invalid portfolio data: {issues.length} validation error(s)"
  | unreadable path complaint => s!"Cannot read portfolio file {path}: {complaint}"
  | unparsable path => s!"Cannot parse portfolio file {path}"
  | refused status => s!"Portfolio API returned status {status}"
  | unfetched url => s!"Cannot fetch portfolio from {url}"

def Unusable.issues : Unusable → List Issue
  | invalid issues => issues
  | _ => []

inductive LoadError where
  | unusable (reason : Unusable) (source : Option String)
  | rows (fault : RowFault)
  deriving DecidableEq, Repr

namespace Spelling

def contactInfo : Spelling := ⟨"contactInfo", "contact_info"⟩

end Spelling

namespace Snapshot

def ofFields (o : Fields) : Decoded Snapshot :=
  Snapshot.mk
    <$> optional o (.plain "about") "" text
    <*> optional o (.plain "skills") [] (list Section.decode)
    <*> optional o (.plain "experiences") [] (list Section.decode)
    <*> optional o (.plain "projects") [] (list Section.decode)
    <*> optional o (.plain "certifications") [] (list Section.decode)
    <*> optional o (.plain "achievements") [] (list Section.decode)
    <*> optional o Spelling.contactInfo {} ContactInfo.decode

def toDocument (style : KeyStyle) (p : Snapshot) : Value :=
  .record [
    ("about", .text p.about),
    ("skills", .list (p.skills.map (·.toDocument style))),
    ("experiences", .list (p.experiences.map (·.toDocument style))),
    ("projects", .list (p.projects.map (·.toDocument style))),
    ("certifications", .list (p.certifications.map (·.toDocument style))),
    ("achievements", .list (p.achievements.map (·.toDocument style))),
    (Spelling.contactInfo.key style, p.contactInfo.toDocument)]

end Snapshot

inductive RowsError where
  | fault (fault : RowFault)
  | invalid (issues : List Issue)

def members (v : Value) : Except RowsError (List Value) :=
  if v.isTruthy then
    match v.members? with
    | some vs => .ok vs
    | none => .error (.fault (.notIterable v.kindName))
  else .ok []

def orInvalid : Decoded α → Except RowsError α
  | .ok a => .ok a
  | .failed issues => .error (.invalid issues)

def setting (row : Value) : Except RowsError (Value × Value) :=
  match row with
  | .record fields =>
    match (Fields.get? fields "key").getD .null with
    | .list _ => .error (.fault (.unhashable "list"))
    | .record _ => .error (.fault (.unhashable "dict"))
    | key => .ok (key, (Fields.get? fields "value").getD .null)
  | v => .error (.fault (.noFields v.kindName))

/-- The last value given to a key, if it counts as present. -/
def lookUp (key : String) (settings : List (Value × Value)) : Option Value :=
  (settings.reverse.findSome? fun
    | (.text k, v) => if k = key then some v else none
    | _ => none).filter (·.isTruthy)

def aboutText (settings : List (Value × Value)) : Value :=
  match lookUp "about" settings with
  | some (.record fields) => (Fields.get? fields "text").getD (.text "")
  | _ => .text ""

def displayed (rows : List Section) : List Section :=
  (rows.filter (·.isVisible)).mergeSort fun a b => a.displayOrder ≤ b.displayOrder

def ofKind (kind : SectionKind) (sections : List Section) : List Section :=
  sections.filter (·.kind = kind)

namespace Snapshot

def ofRecords (sections settings : Value) : Except RowsError Snapshot := do
  let rows ← (← members sections).mapM fun row => orInvalid (Section.decode row)
  let shown := displayed rows
  let settings ← (← members settings).mapM setting
  let contact ← orInvalid (ContactInfo.decode ((lookUp "contact_info" settings).getD (.record [])))
  let about ← orInvalid ((text (aboutText settings)).under (.key "about"))
  return {
    about
    skills := ofKind .skill shown
    experiences := ofKind .experience shown
    projects := ofKind .project shown
    certifications := ofKind .certification shown
    achievements := ofKind .achievement shown
    contactInfo := contact }

/-- Reads a document of either shape; a record with sections holds store rows. -/
def ofDocument (v : Value) (source : Option String) : Except LoadError Snapshot :=
  match v with
  | .record o =>
    match Fields.get? o "sections" with
    | some sections =>
      match ofRecords sections ((Fields.get? o "settings").getD .null) with
      | .ok p => .ok p
      | .error (.fault f) => .error (.rows f)
      | .error (.invalid issues) => .error (.unusable (.invalid issues) source)
    | none =>
      match ofFields o with
      | .ok p => .ok p
      | .failed issues => .error (.unusable (.invalid issues) source)
  | _ => .error (.unusable .notRecord source)

end Snapshot

end Folio.Portfolio

import Folio.Command.Invocation
import Folio.Portfolio.Snapshot
import Folio.Text.Layout
import Folio.Time.Duration

namespace Folio.Portfolio

open Folio.Command Folio.Text Folio.Time

def rule (c : Char) : String :=
  repeated 50 c

def dated (now : Moment) (sections : List Section) : Except ZoneClash (List (Section × Moment)) :=
  Moment.latestFirst (sections.map fun s => (s, s.startDate.getD now))

def separated (separator : List String) : List (List String) → List String
  | [] => []
  | [block] => block
  | block :: blocks => block ++ separator ++ separated separator blocks

def present (label : String) : Option String → List String
  | some s => if s.isEmpty then [] else [s!"{label}: {s}"]
  | none => []

def monthsWorked (now : Moment) (role : Section × Moment) : Except ZoneClash Int :=
  monthsBetween role.2 (role.1.endDate.getD now)

def roleBlock (role : Section × Moment) (months : Int) : List String :=
  let (s, start) := role
  let m := s.asExperience
  let place := match m.location with
    | some place => if place.isEmpty then "Remote" else place
    | none => "Remote"
  [s.title, s!"{m.company} • {place}", s!"{rangeText start s.endDate} ({monthsText months})", "",
    s.description, "", s!"Technologies: {listed m.technologies}"]

def workListing (now : Moment) (sections : List Section) : Except ZoneClash String := do
  if sections.isEmpty then
    return "No experience data available."
  let roles ← dated now sections
  let months ← roles.mapM (monthsWorked now)
  let blocks := List.zipWith roleBlock roles months
  return lines (["", "Work Experience", rule '=', ""] ++ separated ["", rule '-', ""] blocks ++
    ["", rule '=', s!"Total Experience: {monthsText (totalMonths months)}"]) ++ "\n"

def certificationBlock (record : Section × Moment) : List String :=
  let (s, issued) := record
  let m := s.asCertification
  [s.title, s!"Issued by: {m.issuer}", s!"Date: {issued.longMonthYear}"] ++
    present "Credential ID" m.credentialId ++ present "Verify" m.credentialUrl

def certificationListing (now : Moment) (sections : List Section) : Except ZoneClash String := do
  if sections.isEmpty then
    return "No certifications data available."
  let records ← dated now sections
  return lines (["", "Certifications & Achievements", rule '=', ""] ++
    separated ["", rule '-', ""] (records.map certificationBlock) ++
    ["", rule '=', s!"Total Certifications: {records.length}"]) ++ "\n"

def startYear (now : Moment) (s : Section) : Nat :=
  (s.startDate.getD now).date.year

def latestYearFirst (now : Moment) (sections : List Section) : List Section :=
  sections.mergeSort fun a b => startYear now b ≤ startYear now a

def projectBlock (now : Moment) (s : Section) : List String :=
  let m := s.asProject
  let mark := if s.isFeatured then " ⭐" else ""
  let width := s.title.length + (if s.isFeatured then 3 else 0) + 7
  [s!"{s.title}{mark} ({startYear now s})", repeated width '-', s.description, "",
    s!"Tech Stack: {listed m.techStack}"] ++
    present "Live" m.liveUrl ++ present "GitHub" m.githubUrl

def selectedProjects (featured : Bool) (projects : List Section) : List Section :=
  if featured then projects.filter (·.isFeatured) else projects

def projectListing (flags : Flags) (now : Moment) (projects : List Section) : String :=
  if projects.isEmpty then "No projects data available."
  else
    let featured := flags.isSet "featured"
    let shown := latestYearFirst now (selectedProjects featured projects)
    let title := if featured then "Featured Projects" else "All Projects"
    let tip := if !featured && projects.any (·.isFeatured) then
        ["", "Tip: Use --featured to show only featured projects"]
      else []
    lines (["", title, rule '=', ""] ++ separated [""] (shown.map (projectBlock now)) ++
      ["", rule '=', s!"Showing {shown.length} of {projects.length} projects"] ++ tip) ++ "\n"

end Folio.Portfolio
